import Mathlib.Data.Finset.Dedup
import Chamelio.Netvirt.Parser
import Chamelio.Netvirt.TableMap

/-!
# What the network virtualisation parser lets pass

`parse_ipv4` returns `-1` for what is not an address, and the parser tests for
`0`: a row with a malformed address puts the broadcast address in its place
into both tables and the parser returns `0`. Other malformed addresses make
the line one to skip: an empty one, an outer one too long for its buffer, one
on a line with fewer fields or with something else than a number in front.

So the parser is sound exactly for the files it does not read to their end and
for those without a malformed address whose rows, as they are read, have two
addresses and keys other than the marker of an empty entry
(`parser_sound_iff`). It does not read to its end a file without a first line
and one with a row it refuses (`Refused`): an address of all zeros, or an entry
for which one of the tables has no room.

Mirroring notes: what is malformed is said of the file alone: its lines are
what stands between newlines, whatever their length, and a line's fields what
stands between commas. The rows the parser reads are those of the pieces of
up to 255 bytes that `fgets` returns, so a longer line can be more than one of
them, or none.
-/

namespace Chamelio.Netvirt

open Chamelio.Lib

/-! ## What the tables should hold -/

/-- The last of the entries with these keys. -/
def lastEntry (es : List NetvirtEntry) (a b : UInt32) : Option NetvirtEntry :=
  es.reverse.find? fun e => decide (e.keya = a ∧ e.keyb = b)

/-- The key pairs of the entries that do not count as empty. -/
def liveKeys (es : List NetvirtEntry) : Finset (UInt32 × UInt32) :=
  ((es.filter fun e => decide (e.keya ≠ netvirtInvalid)).map fun e => (e.keya, e.keyb)).toFinset

/-- The table holds exactly the last entry under each of its keys, and finds
it. -/
structure Holds (t : NetvirtTable) (es : List NetvirtEntry) : Prop where
  entries : ∀ e, (∃ i, i < netvirtLen ∧ t.vals i = e ∧ e.keya ≠ netvirtInvalid) ↔
    lastEntry es e.keya e.keyb = some e
  get : ∀ a b, a ≠ netvirtInvalid → netvirtTableGet t a b = lastEntry es a b

/-- What holds of a table whatever keys the entries put into it have. -/
structure HoldsLive (t : NetvirtTable) (es : List NetvirtEntry) : Prop where
  table : TableInv t
  get : ∀ a b, a ≠ netvirtInvalid → netvirtTableGet t a b = lastEntry es a b

/-- An entry for which a table with these entries has no room. -/
def Overflows (es : List NetvirtEntry) (e : NetvirtEntry) : Prop :=
  (liveKeys es).card = netvirtLen ∧ (e.keya, e.keyb) ∉ liveKeys es

section entries

variable {t t' : NetvirtTable} {es : List NetvirtEntry} {e : NetvirtEntry} {a b : UInt32}

theorem lastEntry_snoc : lastEntry (es ++ [e]) a b =
    if e.keya = a ∧ e.keyb = b then some e else lastEntry es a b := by
  unfold lastEntry
  rw [List.reverse_append, List.reverse_singleton, List.singleton_append, List.find?_cons]
  by_cases h : e.keya = a ∧ e.keyb = b
  · rw [if_pos h, decide_eq_true h]
  · rw [if_neg h, decide_eq_false h]

theorem lastEntry_keys (h : lastEntry es a b = some e) : e.keya = a ∧ e.keyb = b := by
  unfold lastEntry at h
  simpa using List.find?_some h

theorem lastEntry_mem (h : lastEntry es a b = some e) : e ∈ es := by
  unfold lastEntry at h
  exact List.mem_reverse.mp (List.mem_of_find?_eq_some h)

/-- There is a last entry under the keys of each. -/
theorem lastEntry_of_mem (h : e ∈ es) : ∃ e', lastEntry es e.keya e.keyb = some e' := by
  cases hf : lastEntry es e.keya e.keyb with
  | some e' => exact ⟨e', rfl⟩
  | none =>
    unfold lastEntry at hf
    have := List.find?_eq_none.mp hf e (List.mem_reverse.mpr h)
    simp at this

theorem mem_liveKeys : (a, b) ∈ liveKeys es ↔ a ≠ netvirtInvalid ∧ lastEntry es a b ≠ none := by
  unfold liveKeys
  rw [List.mem_toFinset, List.mem_map]
  constructor
  · intro ⟨e, he, hk⟩
    obtain ⟨hmem, hlive⟩ := List.mem_filter.mp he
    obtain ⟨rfl, rfl⟩ := Prod.mk.inj hk
    obtain ⟨e', he'⟩ := lastEntry_of_mem hmem
    exact ⟨of_decide_eq_true hlive, he' ▸ Option.some_ne_none _⟩
  · intro ⟨ha, hne⟩
    obtain ⟨e, he⟩ := Option.ne_none_iff_exists'.mp hne
    obtain ⟨rfl, rfl⟩ := lastEntry_keys he
    exact ⟨e, List.mem_filter.mpr ⟨lastEntry_mem he, decide_eq_true ha⟩, rfl⟩

/-! ## An entry that counts as empty -/

/-- An entry under the marker goes to the first empty place. -/
theorem netvirtSetLoop_invalid (he : e.keya = netvirtInvalid) (k : Option (UInt32 × UInt32))
    (n i : Nat) :
    netvirtSetLoop t e n (netvirtSlot k i) =
      (place (netvirtSlot k) t.keys none none n i).map fun b => t.put b e := by
  induction n generalizing i with
  | zero => rfl
  | succ n ih =>
    rw [netvirtSetLoop, place, netvirtSlot_next, ih]
    have hiff : (t.vals (netvirtSlot k i)).keya = netvirtInvalid ∨
        (t.vals (netvirtSlot k i)).keya = e.keya ∧ (t.vals (netvirtSlot k i)).keyb = e.keyb ↔
          t.keys (netvirtSlot k i) = none ∨ t.keys (netvirtSlot k i) = none := by
      unfold NetvirtTable.keys
      rw [key_none, he, or_self]
      exact ⟨fun h => h.elim id And.left, Or.inl⟩
    by_cases hc : t.keys (netvirtSlot k i) = none ∨ t.keys (netvirtSlot k i) = none
    · rw [if_pos hc, Option.map_some, if_pos (hiff.mpr hc)]
      rfl
    · rw [if_neg hc, if_neg (fun h => hc (hiff.mp h))]

theorem netvirtTableSet_invalid (he : e.keya = netvirtInvalid) :
    netvirtTableSet t e =
      (place (netvirtSlot (some (e.keya, e.keyb))) t.keys none none netvirtLen 0).map
        fun b => t.put b e := by
  unfold netvirtTableSet
  rw [← netvirtSlot_zero, netvirtSetLoop_invalid he]

/-- It fails exactly in a full table. -/
theorem set_invalid_none_iff (he : e.keya = netvirtInvalid) :
    netvirtTableSet t e = none ↔ t.Full := by
  rw [netvirtTableSet_invalid he, Option.map_eq_none_iff, Lib.place_none_iff, full_iff_keys]
  constructor
  · intro hall i hi
    obtain ⟨j, hj, hslot⟩ := netvirtSlot_cycle.onto (some (e.keya, e.keyb)) i hi
    exact hslot ▸ (hall j (Nat.zero_le j) (by omega)).1
  · intro hfull j _ _
    have := hfull _ (netvirtSlot_cycle.lt (some (e.keya, e.keyb)) j)
    exact ⟨this, this⟩

/-- **And it changes what no search finds.** -/
theorem set_invalid_get (he : e.keya = netvirtInvalid) (hs : netvirtTableSet t e = some t') :
    t'.keys = t.keys ∧
      ∀ a b, a ≠ netvirtInvalid → netvirtTableGet t' a b = netvirtTableGet t a b := by
  rw [netvirtTableSet_invalid he] at hs
  obtain ⟨i, hi, ht⟩ := Option.map_eq_some_iff.mp hs
  have hempty : t.keys i = none := by
    rcases (place_some hi).1 with h | h
    · exact h
    · exact h
  have hkeys : t'.keys = t.keys := by
    funext j
    rw [← ht]
    by_cases hj : j = i
    · rw [hj, hempty]
      show ((t.put i e).vals i).key = none
      rw [show (t.put i e).vals i = e from if_pos rfl]
      exact key_none.mpr he
    · show ((t.put i e).vals j).key = (t.vals j).key
      rw [show (t.put i e).vals j = t.vals j from if_neg hj]
  refine ⟨hkeys, fun a b ha => ?_⟩
  rw [netvirtTableGet_eq ha, netvirtTableGet_eq ha]
  unfold netvirtProbe
  rw [hkeys]
  cases hp : probe (netvirtSlot (some (a, b))) t.keys none (some (a, b)) netvirtLen 0 with
  | none => rfl
  | some j =>
    -- the entry found is not the one written, which was empty
    have hji : j ≠ i := by
      intro heq
      have hkey := (probe_some hp).1
      rw [heq, hempty] at hkey
      cases hkey
    rw [← ht]
    exact congrArg some (if_neg hji)

/-! ## One entry -/

theorem holdsLive_init : HoldsLive netvirtTableInit [] :=
  ⟨netvirtTableInit_inv, fun _ _ ha => netvirtTableGet_init ha⟩

/-- **A set adds its entry to those the table holds.** -/
theorem HoldsLive.set (h : HoldsLive t es) (hs : netvirtTableSet t e = some t') :
    HoldsLive t' (es ++ [e]) := by
  by_cases he : e.keya = netvirtInvalid
  · obtain ⟨hkeys, hget⟩ := set_invalid_get he hs
    refine ⟨?_, fun a b ha => ?_⟩
    · unfold TableInv
      rw [hkeys]
      exact h.table
    · rw [lastEntry_snoc, if_neg (fun hk => ha (hk.1.symm.trans he)), hget a b ha]
      exact h.get a b ha
  · obtain ⟨i, hi, ht⟩ := set_some he hs
    refine ⟨ht ▸ h.table.put he hi, fun a b ha => ?_⟩
    rw [lastEntry_snoc, ht]
    by_cases heq : (a, b) = (e.keya, e.keyb)
    · obtain ⟨rfl, rfl⟩ := Prod.mk.inj heq
      rw [if_pos ⟨rfl, rfl⟩]
      exact h.table.get_put he hi
    · rw [if_neg (fun hk => heq (Prod.ext hk.1.symm hk.2.symm)), h.table.get_put_ne he hi ha heq]
      exact h.get a b ha

theorem HoldsLive.full_iff (h : HoldsLive t es) : t.Full ↔ (liveKeys es).card = netvirtLen := by
  have hset : {k : UInt32 × UInt32 | k.1 ≠ netvirtInvalid ∧ netvirtTableGet t k.1 k.2 ≠ none} =
      (liveKeys es : Set (UInt32 × UInt32)) := by
    ext k
    rw [Finset.mem_coe, show k = (k.1, k.2) from rfl, mem_liveKeys]
    refine and_congr_right fun ha => ?_
    rw [h.get k.1 k.2 ha]
  rw [h.table.full_iff, hset, Set.ncard_coe_finset]

/-- **A set fails exactly for an entry without room.** -/
theorem HoldsLive.set_none_iff (h : HoldsLive t es) :
    netvirtTableSet t e = none ↔ Overflows es e := by
  unfold Overflows
  rw [← h.full_iff, mem_liveKeys]
  by_cases he : e.keya = netvirtInvalid
  · rw [set_invalid_none_iff he]
    exact ⟨fun hf => ⟨hf, fun hk => hk.1 he⟩, And.left⟩
  · rw [h.table.set_none_iff he, h.get _ _ he, and_comm]
    refine and_congr_right fun _ => ?_
    rw [not_and, not_not]
    exact ⟨fun hl _ => hl, fun hl => hl he⟩

/-- **A table holds its entries exactly when none is under the marker.** -/
theorem HoldsLive.holds_iff (h : HoldsLive t es) :
    Holds t es ↔ ∀ e, e ∈ es → e.keya ≠ netvirtInvalid := by
  constructor
  · intro hh e he hinv
    obtain ⟨e', he'⟩ := lastEntry_of_mem he
    have hkeys := lastEntry_keys he'
    rw [← hkeys.1, ← hkeys.2] at he'
    obtain ⟨i, -, -, hlive⟩ := (hh.entries e').mpr he'
    exact hlive (hkeys.1.trans hinv)
  · intro hlive
    refine ⟨fun e => ⟨?_, ?_⟩, h.get⟩
    · intro ⟨i, hi, hv, ha⟩
      rw [← h.get _ _ ha]
      exact (h.table.get_iff ha).mpr ⟨i, hi, hv, rfl, rfl⟩
    · intro hl
      have ha := hlive e (lastEntry_mem hl)
      rw [← h.get _ _ ha] at hl
      obtain ⟨i, hi, hv, -, -⟩ := (h.table.get_iff ha).mp hl
      exact ⟨i, hi, hv, ha⟩

end entries

/-! ## The rows of a file -/

/-- The lines behind the header line. -/
def dataLines (text : Text) : List Text := (fgetsAll maxLineLen text.length text).tail

/-- The rows of a file as they are read. -/
def readRows (text : Text) : List Row := (dataLines text).filterMap readRow

/-- The lines of a file behind the first one, as they stand between its
newlines. -/
def writtenLines (text : Text) : List Text := (text.splitOn 10).tail

/-- The addresses a line gives: its third field, and what stands behind the
third comma, without the blanks in front. -/
def addressFields (line : Text) : List Text :=
  match line.splitOn 44 with
  | _ :: _ :: [outerIp] => [outerIp.dropWhile isSpace]
  | _ :: _ :: outerIp :: innerIp =>
    [outerIp.dropWhile isSpace, ([44].intercalate innerIp).dropWhile isSpace]
  | _ => []

/-- **The file gives something that is no address** where an address belongs. -/
def Malformed (text : Text) : Prop :=
  ∃ line ∈ writtenLines text, ∃ ip ∈ addressFields line, inetPton ip = none

instance (text : Text) : Decidable (Malformed text) :=
  inferInstanceAs (Decidable (∃ line ∈ writtenLines text, ∃ ip ∈ addressFields line,
    inetPton ip = none))

/-- Both addresses of a row are addresses. -/
def Row.Valid (r : Row) : Prop := inetPton r.outerIpStr ≠ none ∧ inetPton r.innerIpStr ≠ none

/-- Neither table's key of a row is the marker of an empty entry. -/
def Row.Keyed (r : Row) : Prop := r.greKey ≠ netvirtInvalid ∧ r.guestId ≠ netvirtInvalid

/-- A row the parser returns `-1` for, after these rows. -/
def Row.Refused (before : List Row) (r : Row) : Prop :=
  parseIpv4 r.outerIpStr = 0 ∨ parseIpv4 r.innerIpStr = 0 ∨
    Overflows (before.map Row.innerEntry) r.innerEntry ∨
    Overflows (before.map Row.gidEntry) r.gidEntry

/-- One of the rows is refused where it comes. -/
def Refused (rows : List Row) : Prop :=
  ∃ before r after, rows = before ++ r :: after ∧ r.Refused before

/-- Tables fresh from `netvirt_table_init`. -/
def netvirtTablesInit : NetvirtTables where
  innerTable := netvirtTableInit
  gidTable := netvirtTableInit

/-- What the tables hold after these rows. -/
structure RowsLive (ts : NetvirtTables) (rows : List Row) : Prop where
  inner : HoldsLive ts.innerTable (rows.map Row.innerEntry)
  gid : HoldsLive ts.gidTable (rows.map Row.gidEntry)

section loop

variable {ts : NetvirtTables} {before rows : List Row} {r : Row}

/-- **One row**: it is refused, or its entries are added. -/
theorem netvirtRow_cases (h : RowsLive ts before) (r : Row) :
    (r.Refused before ∧ (netvirtRow ts r).1 = -1) ∨
      (¬ r.Refused before ∧ (netvirtRow ts r).1 = 0 ∧
        RowsLive (netvirtRow ts r).2 (before ++ [r])) := by
  unfold netvirtRow
  split
  · next hz =>
    refine Or.inl ⟨?_, rfl⟩
    rcases hz with hz | hz
    · exact Or.inl hz
    · exact Or.inr (Or.inl hz)
  · next hz =>
    obtain ⟨ho, hi⟩ := not_or.mp hz
    split
    · next hs => exact Or.inl ⟨Or.inr (Or.inr (Or.inl (h.inner.set_none_iff.mp hs))), rfl⟩
    · next t hs =>
      split
      · next hg => exact Or.inl ⟨Or.inr (Or.inr (Or.inr (h.gid.set_none_iff.mp hg))), rfl⟩
      · next g hg =>
        refine Or.inr ⟨?_, rfl, ?_, ?_⟩
        · intro hr
          rcases hr with hr | hr | hr | hr
          · exact ho hr
          · exact hi hr
          · rw [h.inner.set_none_iff.mpr hr] at hs
            cases hs
          · rw [h.gid.set_none_iff.mpr hr] at hg
            cases hg
        · rw [List.map_append]
          exact h.inner.set hs
        · rw [List.map_append]
          exact h.gid.set hg

theorem Refused.cons_iff {before after : List Row} :
    (∃ b r' a, r :: after = b ++ r' :: a ∧ r'.Refused (before ++ b)) ↔
      r.Refused before ∨ ∃ b r' a, after = b ++ r' :: a ∧ r'.Refused (before ++ [r] ++ b) := by
  constructor
  · intro ⟨b, r', a, heq, hr⟩
    cases b with
    | nil =>
      obtain ⟨rfl, rfl⟩ := List.cons.inj heq
      exact Or.inl (List.append_nil before ▸ hr)
    | cons r₀ b =>
      obtain ⟨rfl, rfl⟩ := List.cons.inj heq
      refine Or.inr ⟨b, r', a, rfl, ?_⟩
      rw [List.append_assoc]
      exact hr
  · intro h
    rcases h with hr | ⟨b, r', a, heq, hr⟩
    · exact ⟨[], r, after, rfl, (List.append_nil before).symm ▸ hr⟩
    · refine ⟨r :: b, r', a, by rw [heq]; rfl, ?_⟩
      rw [List.append_assoc] at hr
      exact hr

/-- **The loop returns `0` exactly if no row is refused**, with the entries of
all rows in the tables, and `-1` otherwise. -/
theorem netvirtLines_cases (h : RowsLive ts before) (lines : List Text) :
    ((∃ b r a, lines.filterMap readRow = b ++ r :: a ∧ r.Refused (before ++ b)) ∧
        (netvirtLines ts lines).1 = -1) ∨
      ((¬ ∃ b r a, lines.filterMap readRow = b ++ r :: a ∧ r.Refused (before ++ b)) ∧
        (netvirtLines ts lines).1 = 0 ∧
        RowsLive (netvirtLines ts lines).2 (before ++ lines.filterMap readRow)) := by
  induction lines generalizing ts before with
  | nil =>
    refine Or.inr ⟨?_, rfl, ?_⟩
    · intro ⟨b, r, a, heq, _⟩
      exact List.cons_ne_nil _ _ (List.append_eq_nil_iff.mp heq.symm).2
    · rw [List.filterMap_nil, List.append_nil]
      exact h
  | cons line lines ih =>
    rw [netvirtLines]
    cases hr : readRow line with
    | none =>
      rw [List.filterMap_cons_none hr]
      exact ih h
    | some r =>
      rw [List.filterMap_cons_some hr, Refused.cons_iff]
      dsimp only
      rcases netvirtRow_cases h r with ⟨href, hret⟩ | ⟨href, hret, hlive⟩
      · refine Or.inl ⟨Or.inl href, ?_⟩
        rw [if_neg (by rw [hret]; decide)]
        exact hret
      · rw [if_pos hret]
        rcases ih hlive with ⟨hlater, hret'⟩ | ⟨hnone, hret', hlive'⟩
        · exact Or.inl ⟨Or.inr hlater, hret'⟩
        · refine Or.inr ⟨fun hor => hor.elim href hnone, hret', ?_⟩
          rw [List.append_assoc, List.singleton_append] at hlive'
          exact hlive'

end loop

/-! ## The parser -/

section parser

variable {text : Text} {r : Row}

/-- **What the parser returns for a file.** -/
theorem netvirtParser_cases (htext : text ≠ []) :
    (Refused (readRows text) ∧ (netvirtParser netvirtTablesInit (some text)).1 = -1) ∨
      (¬ Refused (readRows text) ∧ (netvirtParser netvirtTablesInit (some text)).1 = 0 ∧
        RowsLive (netvirtParser netvirtTablesInit (some text)).2 (readRows text)) := by
  unfold netvirtParser readRows dataLines
  dsimp only
  cases hlines : fgetsAll maxLineLen text.length text with
  | nil =>
    have hflat := fgetsAll_flatten (show 2 ≤ maxLineLen by decide) (Nat.le_refl text.length)
    rw [hlines] at hflat
    exact absurd hflat.symm htext
  | cons header lines =>
    have h := netvirtLines_cases
      (show RowsLive netvirtTablesInit [] from ⟨holdsLive_init, holdsLive_init⟩) lines
    simp only [List.nil_append] at h
    exact h

/-- The parser is sound for a file: when it returns `0`, the rows it read have
two addresses and the tables hold exactly their entries, the last under each
pair of keys; and it returns `-1` for a file with a malformed address. -/
structure ParserSound (fp : Option Text) : Prop where
  rows : (netvirtParser netvirtTablesInit fp).1 = 0 → ∀ text, fp = some text →
    ∀ r, r ∈ readRows text → r.Valid
  tables : (netvirtParser netvirtTablesInit fp).1 = 0 → ∀ text, fp = some text →
    Holds (netvirtParser netvirtTablesInit fp).2.innerTable
        ((readRows text).map Row.innerEntry) ∧
      Holds (netvirtParser netvirtTablesInit fp).2.gidTable ((readRows text).map Row.gidEntry)
  malformed : ∀ text, fp = some text → Malformed text →
    (netvirtParser netvirtTablesInit fp).1 = -1

/-- A file for which the parser returns `-1` is no trouble. -/
theorem ParserSound.of_refused {fp : Option Text}
    (h : (netvirtParser netvirtTablesInit fp).1 = -1) : ParserSound fp := by
  refine ⟨fun h0 => ?_, fun h0 => ?_, fun _ _ _ => h⟩
  · rw [h] at h0
    cases h0
  · rw [h] at h0
    cases h0

end parser

/-- **When the parser is sound**: exactly for a file that cannot be opened or
has no first line, one with a row that is refused, and one without a malformed
address whose rows, as they are read, all have two addresses and keys other
than `NETVIRT_INVALID`. -/
theorem parser_sound_iff (fp : Option Text) :
    ParserSound fp ↔ ∀ text, fp = some text → text = [] ∨ Refused (readRows text) ∨
      (¬ Malformed text ∧ ∀ r, r ∈ readRows text → r.Valid ∧ r.Keyed) := by
  constructor
  · intro h text hfp
    by_cases htext : text = []
    · exact Or.inl htext
    · refine Or.inr ?_
      rcases netvirtParser_cases htext with ⟨href, -⟩ | ⟨-, hret, hlive⟩
      · exact Or.inl href
      · subst hfp
        refine Or.inr ⟨fun hbad => ?_, fun r hr => ?_⟩
        · rw [h.malformed text rfl hbad] at hret
          cases hret
        · obtain ⟨hinner, hgid⟩ := h.tables hret text rfl
          refine ⟨h.rows hret text rfl r hr, ?_, ?_⟩
          · exact hlive.inner.holds_iff.mp hinner r.innerEntry (List.mem_map_of_mem hr)
          · exact hlive.gid.holds_iff.mp hgid r.gidEntry (List.mem_map_of_mem hr)
  · intro h
    cases fp with
    | none => exact ParserSound.of_refused rfl
    | some text =>
      by_cases htext : text = []
      · subst htext
        exact ParserSound.of_refused rfl
      · rcases netvirtParser_cases htext with ⟨-, hret⟩ | ⟨href, hret, hlive⟩
        · exact ParserSound.of_refused hret
        · -- nothing is refused, so nothing is malformed
          obtain ⟨hgood, hrows⟩ : ¬ Malformed text ∧ ∀ r, r ∈ readRows text → r.Valid ∧ r.Keyed := by
            rcases h text rfl with h | h | h
            · exact absurd h htext
            · exact absurd h href
            · exact h
          refine ⟨fun _ text' hfp => ?_, fun _ text' hfp => ?_, fun text' hfp hbad => ?_⟩
          · cases hfp
            exact fun r hr => (hrows r hr).1
          · cases hfp
            refine ⟨hlive.inner.holds_iff.mpr fun e he => ?_,
              hlive.gid.holds_iff.mpr fun e he => ?_⟩
            · obtain ⟨r, hr, rfl⟩ := List.mem_map.mp he
              exact (hrows r hr).2.1
            · obtain ⟨r, hr, rfl⟩ := List.mem_map.mp he
              exact (hrows r hr).2.2
          · cases hfp
            exact absurd hbad hgood

/-- `"h\n1, 2, x, 1.1.1.1\n"`: the outer address is malformed, and the parser
returns `0`. -/
def malformedFile : Text :=
  [104, 10, 49, 44, 32, 50, 44, 32, 120, 44, 32, 49, 46, 49, 46, 49, 46, 49, 10]

theorem parser_sound_fails : ¬ ParserSound (some malformedFile) := by
  intro h
  have hret := h.malformed malformedFile rfl (by decide +kernel)
  have hzero : (netvirtParser netvirtTablesInit (some malformedFile)).1 = 0 := by decide +kernel
  rw [hzero] at hret
  cases hret

/-- `"h\n1, 2, , 1.1.1.1\n"`: no outer address; the line is skipped. -/
example : Malformed [104, 10, 49, 44, 32, 50, 44, 32, 44, 32, 49, 46, 49, 46, 49, 46, 49, 10] ∧
    readRows [104, 10, 49, 44, 32, 50, 44, 32, 44, 32, 49, 46, 49, 46, 49, 46, 49, 10] = [] := by
  decide +kernel

end Chamelio.Netvirt
