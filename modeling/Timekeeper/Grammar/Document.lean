import Timekeeper.Grammar.Table
import Timekeeper.Json.Reader

/-!
# Stored tables

A table is stored as a JSON object with the members `tests` and `total`, and each test as an
object with the members `id`, `label` and `marker`, in any order and beside any others. A
list of the same values in this order is accepted in place of either object.

What is wrong with a table as a whole, such as a missing member, is blamed on the place
behind it, where its end is looked for.
-/

namespace Timekeeper

namespace Table

open Json

/-- Reads an object. A cause that its members give is blamed on the place behind it. -/
def object (members : Reading (Except Cause α)) : Reading α := do
  advance
  match ← members with
  | .ok value =>
    closeObject
    return value
  | .error cause =>
    passClosing '\x7d'
    fail cause

/-- Reads a list. A cause that its elements give is blamed on the place behind it. -/
def list (elements : Reading (Except Cause α)) : Reading α := do
  advance
  match ← elements with
  | .ok value =>
    closeList
    return value
  | .error cause =>
    passClosing ']'
    fail cause

/-- Reads an object, or a list of the same values. -/
def record (expected : String) (members elements : Reading (Except Cause α)) :
    Reading α := do
  match ← skip with
  | none => failNext .endInValue
  | some '\x7b' => object members
  | some '[' => list elements
  | some _ => failType expected

/-- Reads the next element of a list that has to have one. -/
def element (index : Nat) (expected : String) (read : Reading α) :
    Reading (Except Cause α) := do
  if ← nextElement (index == 0) then return .ok (← read)
  else return .error (.invalidLength index expected)

/-- A member that has to have been given. -/
def given (name : String) (member : Option α) : Except Cause α :=
  match member with
  | some value => .ok value
  | none => .error (.missingField name)

/-- Reads the value of a member that must not have been given before. -/
def member (name : String) (old : Option α) (read : Reading α) :
    Reading (Except Cause (Option α)) := do
  if old.isSome then return .error (.duplicateField name)
  else
    colon
    return .ok (some (← read))

/-! ### Tests -/

/-- The members of a test as far as they have been read. -/
structure EntryDraft where
  id : Option String
  label : Option String
  marker : Option String

def EntryDraft.finish (d : EntryDraft) : Except Cause Entry := do
  return ⟨← given "id" d.id, ← given "label" d.label, ← given "marker" d.marker⟩

/-- Reads the members of a test. The number bounds how many there are. -/
def entryMembers : Nat → Bool → EntryDraft → Reading (Except Cause Entry)
  | 0, _, d => return d.finish
  | n + 1, first, d => do
    match ← nextKey? first with
    | none => return d.finish
    | some "id" =>
      match ← member "id" d.id expectString with
      | .ok value => entryMembers n false { d with id := value }
      | .error cause => return .error cause
    | some "label" =>
      match ← member "label" d.label expectString with
      | .ok value => entryMembers n false { d with label := value }
      | .error cause => return .error cause
    | some "marker" =>
      match ← member "marker" d.marker expectString with
      | .ok value => entryMembers n false { d with marker := value }
      | .error cause => return .error cause
    | some _ =>
      colon
      ignored
      entryMembers n false d

/-- Reads a test from a list of its three values. -/
def entryElements : Reading (Except Cause Entry) := do
  let expected := "struct Entry with 3 elements"
  let id ← element 0 expected expectString
  match id with
  | .error cause => return .error cause
  | .ok id =>
    match ← element 1 expected expectString with
    | .error cause => return .error cause
    | .ok label =>
      match ← element 2 expected expectString with
      | .error cause => return .error cause
      | .ok marker => return .ok ⟨id, label, marker⟩

/-- Reads a test. -/
def entry : Reading Entry := do
  let bound := (← get).rest.length
  record "struct Entry" (entryMembers bound true ⟨none, none, none⟩) entryElements

/-- Reads the tests of a list, of which some come last first. The number bounds how many there
are. -/
def entriesFrom : Nat → List Entry → Reading (List Entry)
  | 0, read => return read.reverse
  | n + 1, read => do
    if ← nextElement read.isEmpty then entriesFrom n ((← entry) :: read)
    else return read.reverse

/-- Reads the list of tests. -/
def entries : Reading (List Entry) := do
  match ← skip with
  | none => failNext .endInValue
  | some '[' =>
    let bound := (← get).rest.length
    list do return .ok (← entriesFrom bound [])
  | some _ => failType "a sequence"

/-! ### Tables -/

/-- The members of a table as far as they have been read. -/
structure Draft where
  tests : Option (List Entry)
  total : Option String

def Draft.finish (d : Draft) : Except Cause Table := do
  return ⟨← given "tests" d.tests, ← given "total" d.total⟩

/-- Reads the members of a table. The number bounds how many there are. -/
def tableMembers : Nat → Bool → Draft → Reading (Except Cause Table)
  | 0, _, d => return d.finish
  | n + 1, first, d => do
    match ← nextKey? first with
    | none => return d.finish
    | some "tests" =>
      match ← member "tests" d.tests entries with
      | .ok value => tableMembers n false { d with tests := value }
      | .error cause => return .error cause
    | some "total" =>
      match ← member "total" d.total expectString with
      | .ok value => tableMembers n false { d with total := value }
      | .error cause => return .error cause
    | some _ =>
      colon
      ignored
      tableMembers n false d

/-- Reads a table from a list of its two values. -/
def tableElements : Reading (Except Cause Table) := do
  let expected := "struct Table with 2 elements"
  match ← element 0 expected entries with
  | .error cause => return .error cause
  | .ok tests =>
    match ← element 1 expected expectString with
    | .error cause => return .error cause
    | .ok total => return .ok ⟨tests, total⟩

/-- Reads a table up to the end of the document. -/
def document : Reading Table := do
  let bound := (← get).rest.length
  let table ← record "struct Table" (tableMembers bound true ⟨none, none⟩) tableElements
  match ← skip with
  | none => return table
  | some _ => failNext .trailingCharacters

/-- The table that a document stores. -/
def ofDocument (text : String) : Except Json.Fault Table := do
  let (table, _) ← document.run (Input.ofText text.toList)
  return table

/-! ### The standard table -/

/-- The lines of the document in which the standard table is stored, the longer ones in two. -/
def standardLines : List String := [
  "\x7b\n",
  "    \"tests\": [\n",
  "        \x7b \"id\": \"fibonacci\", \"label\": \"Fibonacci(30)\", ",
  "\"marker\": \"Test 1:.*?Sure:\" \x7d,\n",
  "        \x7b \"id\": \"factorial\", \"label\": \"Factorial(20)\", ",
  "\"marker\": \"Test 2:.*?Sure:\" \x7d,\n",
  "        \x7b \"id\": \"loop\", \"label\": \"Loop 1M\", ",
  "\"marker\": \"Test 3:.*?Sure:\" \x7d,\n",
  "        \x7b \"id\": \"nested\", \"label\": \"Nested 1000x1000\", ",
  "\"marker\": \"Test 4:.*?Sure:\" \x7d,\n",
  "        \x7b \"id\": \"string\", \"label\": \"String 100K\", ",
  "\"marker\": \"Test 5:.*?Sure:\" \x7d,\n",
  "        \x7b \"id\": \"ackermann\", \"label\": \"Ackermann(2,3)\", ",
  "\"marker\": \"Test 6:.*?Sure:\" \x7d,\n",
  "        \x7b \"id\": \"tak\", \"label\": \"Tak(18,12,6)\", ",
  "\"marker\": \"Test 7:.*?Sure:\" \x7d,\n",
  "        \x7b \"id\": \"sieve\", \"label\": \"Sieve 100K\", ",
  "\"marker\": \"Test 8:.*?Sure:\" \x7d,\n",
  "        \x7b \"id\": \"bubble_sort\", \"label\": \"Bubble Sort 1000\", ",
  "\"marker\": \"Test 9:.*?Sure:\" \x7d,\n",
  "        \x7b \"id\": \"array_memory\", \"label\": \"Array 100K\", ",
  "\"marker\": \"Test 10:.*?Sure:\" \x7d,\n",
  "        \x7b \"id\": \"string_alloc\", \"label\": \"String Alloc 10K\", ",
  "\"marker\": \"Test 11:.*?Sure:\" \x7d,\n",
  "        \x7b \"id\": \"struct_build\", \"label\": \"Struct Build 10K\", ",
  "\"marker\": \"Test 12:.*?Sure:\" \x7d\n",
  "    ],\n",
  "    \"total\": \"TOPLAM SURE:\"\n",
  "\x7d\n"]

/-- The document in which the standard table is stored. -/
def standardText : String := String.join standardLines

end Table

end Timekeeper
