import Chamelio.Lib.Cstdio
import Chamelio.Netvirt.Table

/-!
# The network virtualisation parser (`netvirt/netvirt_parser.c`)

`netvirt_parser` reads a file of rows `guest id, GRE key, outer address, inner
address` under a header line and puts an entry for each into two tables: one
under the GRE key and the inner address, one under the guest id and the outer
address.

Mirroring notes: the file is its bytes, `none` where `fopen` fails. The lines
`fgets` returns do not depend on what is done with them, so the loop runs over
the list of them. A line is the C string up to its first newline. What the
conversions stored for a line with fewer than four fields is never read. The
tables are two of the caller's and not null.
-/

namespace Chamelio.Netvirt

open Chamelio.Lib

/-- `MAX_LINE_LEN`. -/
def maxLineLen : Nat := 256

/-- The two tables. -/
structure NetvirtTables where
  innerTable : NetvirtTable
  gidTable : NetvirtTable

/-- The four fields of a row. -/
structure Row where
  guestId : UInt32
  greKey : UInt32
  outerIpStr : Text
  innerIpStr : Text
  deriving DecidableEq, Repr

/-- `parse_ipv4`: the address in host order, `-1` if there is none, as the
`__u32` its caller keeps it in. -/
def parseIpv4 (s : Text) : UInt32 :=
  match inetPton s with
  | none => 0xffffffff
  | some ip => ip

/-- `line[strcspn(line, "\n")] = '\0'`. -/
def cutLine (line : Text) : Text := (cstr line).takeWhile fun b => b != 10

/-- `%u, %u, `. -/
def scanKeys (s : Text) : Option (UInt32 × UInt32 × Text) := do
  let (guestId, s) ← scanUint s
  let s ← scanChar 44 s
  let (greKey, s) ← scanUint s
  let s ← scanChar 44 s
  return (guestId, greKey, s.dropWhile isSpace)

/-- `%15[^,], %15[^\n]`. -/
def scanAddrs (s : Text) : Option (Text × Text) := do
  let (outerIpStr, s) ← scanUntil 15 44 s
  let s ← scanChar 44 s
  let (innerIpStr, _) ← scanUntil 15 10 (s.dropWhile isSpace)
  return (outerIpStr, innerIpStr)

/-- `sscanf` with `%u, %u, %15[^,], %15[^\n]`; `none` where it does not return
4. -/
def scanRow (line : Text) : Option Row := do
  let (guestId, greKey, s) ← scanKeys line
  let (outerIpStr, innerIpStr) ← scanAddrs s
  return ⟨guestId, greKey, outerIpStr, innerIpStr⟩

/-- The row the parser reads from a line. -/
def readRow (line : Text) : Option Row := scanRow (cutLine line)

/-- The entry of a row in the inner table. -/
def Row.innerEntry (r : Row) : NetvirtEntry where
  keya := r.greKey
  keyb := parseIpv4 r.innerIpStr
  gid := r.guestId
  greKey := r.greKey
  innerIp := parseIpv4 r.innerIpStr
  outerIp := parseIpv4 r.outerIpStr

/-- The entry of a row in the guest id table. -/
def Row.gidEntry (r : Row) : NetvirtEntry where
  keya := r.guestId
  keyb := parseIpv4 r.outerIpStr
  gid := r.guestId
  greKey := r.greKey
  innerIp := parseIpv4 r.innerIpStr
  outerIp := parseIpv4 r.outerIpStr

/-- The body of the loop for a line with four fields: `0` to go on, `-1` to
return. -/
def netvirtRow (ts : NetvirtTables) (r : Row) : Int × NetvirtTables :=
  if parseIpv4 r.outerIpStr = 0 ∨ parseIpv4 r.innerIpStr = 0 then (-1, ts)
  else
    match netvirtTableSet ts.innerTable r.innerEntry with
    | none => (-1, ts)
    | some innerTable =>
      match netvirtTableSet ts.gidTable r.gidEntry with
      | none => (-1, { ts with innerTable })
      | some gidTable => (0, { innerTable, gidTable })

/-- The loop over the data lines. -/
def netvirtLines (ts : NetvirtTables) : List Text → Int × NetvirtTables
  | [] => (0, ts)
  | line :: lines =>
    match readRow line with
    | none => netvirtLines ts lines
    | some r =>
      if (netvirtRow ts r).1 = 0 then netvirtLines (netvirtRow ts r).2 lines
      else netvirtRow ts r

/-- `netvirt_parser`. -/
def netvirtParser (ts : NetvirtTables) (fp : Option Text) : Int × NetvirtTables :=
  match fp with
  | none => (-1, ts)
  | some text =>
    match fgetsAll maxLineLen text.length text with
    | [] => (-1, ts)
    | _ :: lines => netvirtLines ts lines

end Chamelio.Netvirt
