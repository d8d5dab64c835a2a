import Reckoning.Ledger.Index
import Reckoning.Ledger.Store
import Reckoning.Text.Blank

/-!
# Ledgers in a file

A file holds one entry on each line, in the order in which they were committed.  A line counts
once its line break is written; what follows the last line break was torn off and is dropped
when the file is opened.

* `LineFormat` is how an entry is written on a line.
* `LineLedger.recover` opens a file: the bytes that it leaves, and the index that they give.
* `LineLedger.append` commits a record, if the disk takes its line.
* `DiskLedger` is such a ledger on a disk that may fail: `DiskLedger.append` reports a line that was
  not written, and cuts the file back to complete lines.
-/

namespace Reckoning

/-- A way to write an entry on a line. -/
structure LineFormat where
  /-- The line of an entry, without its line break. -/
  write : LedgerEntry → String
  /-- The entry of a line. -/
  read? : String → Option LedgerEntry

/-- The bytes of an entry, with its line break. -/
def LineFormat.line (f : LineFormat) (e : LedgerEntry) : List UInt8 :=
  (f.write e ++ "\n").toUTF8.toList

/-- A ledger that is kept in a file. -/
structure LineLedger (f : LineFormat) where
  /-- The bytes of the file. -/
  file : List UInt8
  index : Index

namespace LineLedger

/-- The byte of a line break. -/
def lineBreak : UInt8 := 10

/-- The bytes up to the last line break. -/
def completeLines (bytes : List UInt8) : List UInt8 :=
  (bytes.reverse.dropWhile (· != lineBreak)).reverse

/-- A line without the carriage return at its end. -/
def withoutReturn (line : List Char) : List Char :=
  if line.getLast? = some '\r' then line.dropLast else line

/-- The lines of a text.  `line` is what was read of the current one, backwards. -/
def cutLines (line : List Char) : List Char → List (List Char)
  | [] => if line.isEmpty then [] else [line.reverse]
  | '\n' :: rest => withoutReturn line.reverse :: cutLines [] rest
  | c :: rest => cutLines (c :: line) rest

/-- Take a line into an index.  Blank lines are skipped; an entry has to be the next one of its
character. -/
def takeLine (f : LineFormat) (index : Index) (number : Nat) (line : List Char) :
    LedgerResult Index :=
  if Text.allBlank line then
    .ok index
  else
    match f.read? (String.ofList line) with
    | none => .error (.corrupt number (.unreadable "the line is not an entry"))
    | some entry =>
      -- places are dense, so the history so far says which one has to follow
      let expected := index.nextId entry.id.character
      if entry.id = expected then .ok (index.push entry)
      else .error (.corrupt number (.misplaced expected entry.id))

/-- Take lines into an index, counting from `number`. -/
def takeLines (f : LineFormat) (index : Index) (number : Nat) :
    List (List Char) → LedgerResult Index
  | [] => .ok index
  | line :: rest => do
    let index ← takeLine f index number line
    takeLines f index (number + 1) rest

/-- The index of the bytes of a file. -/
def indexOf (f : LineFormat) (bytes : List UInt8) : LedgerResult Index :=
  match String.fromUTF8? (ByteArray.mk bytes.toArray) with
  | some text => takeLines f ∅ 1 (cutLines [] text.toList)
  | none => .error (.corrupt 0 (.unreadable "the file is not UTF-8 text"))

/-- Open a file: the bytes that it leaves, and the index that they give. -/
def recover (f : LineFormat) (bytes : List UInt8) : List UInt8 × LedgerResult Index :=
  let kept := completeLines bytes
  (kept, indexOf f kept)

/-- The ledger in a file. -/
def ofBytes (f : LineFormat) (bytes : List UInt8) : LedgerResult (LineLedger f) :=
  let (file, index) := recover f bytes
  (fun index => ⟨file, index⟩) <$> index

variable {f : LineFormat}

/-- Open the file again.  Where that fails the ledger goes on with what it knows, but the file
has lost its torn end. -/
def reopen (l : LineLedger f) : LineLedger f × Option LedgerError :=
  match recover f l.file with
  | (file, .ok index) => (⟨file, index⟩, none)
  | (file, .error e) => ({ l with file }, some e)

/-- Commit a record. -/
def append (l : LineLedger f) (r : ActionRecord) : LedgerId × LineLedger f :=
  let id := l.index.nextId r.character
  let entry : LedgerEntry := ⟨id, r⟩
  (id, ⟨l.file ++ f.line entry, l.index.push entry⟩)

instance : Store (LineLedger f) where
  name _ := "jsonl"
  append l r := (.ok (l.append r).1, (l.append r).2)
  get? l id := .ok (l.index.get? id)
  query l c p := .ok (l.index.query c p)
  entries l := .ok l.index.entries
  latest? l c := .ok (l.index.latest? c)
  findBySeed? l c seed := .ok (l.index.findBySeed? c seed)

end LineLedger

/-! ### Disks that fail -/

/-- What becomes of a line that is written. -/
inductive DiskFate
  | written
  /-- The disk fails behind some bytes of the line.  They are cut off again, unless that fails as
  well. -/
  | torn (bytes : Nat) (isCutOff : Bool) (detail : String)
deriving DecidableEq, Repr

/-- A ledger in a file on a disk that may fail. -/
structure DiskLedger (f : LineFormat) extends LineLedger f where
  /-- How many bytes of the file are known to hold complete lines. -/
  committed : Nat
  /-- What becomes of the next lines.  All lines behind them are written. -/
  fates : List DiskFate

namespace DiskLedger

/-- Bytes at a given length: cut off, or filled up with zeros. -/
def withLength (n : Nat) (bytes : List UInt8) : List UInt8 :=
  bytes.take n ++ .replicate (n - bytes.length) 0

variable {f : LineFormat}

/-- The ledger in a file, on a disk with some fates. -/
def ofBytes (f : LineFormat) (fates : List DiskFate) (bytes : List UInt8) :
    LedgerResult (DiskLedger f) :=
  (fun l => ⟨l, l.file.length, fates⟩) <$> LineLedger.ofBytes f bytes

/-- Commit a record.  A line that the disk did not take is cut off, so that the next one does not
stand behind a part of it. -/
def append (l : DiskLedger f) (r : ActionRecord) : LedgerResult LedgerId × DiskLedger f :=
  let entry : LedgerEntry := ⟨l.index.nextId r.character, r⟩
  match l.fates with
  | .torn bytes isCutOff detail :: fates =>
    let file := l.file ++ (f.line entry).take bytes
    (.error (.persistence detail),
      { l with file := if isCutOff then withLength l.committed file else file, fates })
  | fates =>
    (.ok entry.id, {
      file := l.file ++ f.line entry
      index := l.index.push entry
      committed := l.committed + (f.line entry).length
      fates := fates.tail })

instance : Store (DiskLedger f) where
  name l := Store.name l.toLineLedger
  append l r := l.append r
  get? l := Store.get? l.toLineLedger
  query l := Store.query l.toLineLedger
  entries l := Store.entries l.toLineLedger
  latest? l := Store.latest? l.toLineLedger
  findBySeed? l := Store.findBySeed? l.toLineLedger

end DiskLedger

end Reckoning
