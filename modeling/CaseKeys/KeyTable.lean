import CaseKeys.Conflict
import CaseKeys.Key

/-! The table of case names and their keys in the order of their addition. -/
namespace CaseKeys

/-- Every added case name with its key, the first owner of each key, and the conflicts so far.
The format is the one for the next addition; entries keep the key that they were given. -/
structure KeyTable where
  format : KeyFormat := .standard
  entries : List (String × String) := []
  /-- Keys with their first owners, in the order in which the keys appeared. -/
  owners : List (String × String) := []
  conflicts : List Conflict := []
  deriving DecidableEq, Repr

namespace KeyTable

def owner? (t : KeyTable) (key : String) : Option String :=
  t.owners.lookup key

/-- The key of a case name in the table, as it was when the name was first added. -/
def key? (t : KeyTable) (name : String) : Option String :=
  t.entries.lookup name

def contains (t : KeyTable) (key : String) : Bool :=
  (t.owner? key).isSome

/-- The distinct keys in the order of their first appearance. -/
def keys (t : KeyTable) : List String :=
  t.owners.map (·.1)

def size (t : KeyTable) : Nat :=
  t.entries.length

/-- Adds a case name. A key that has an owner keeps it, and the conflict is returned. -/
def add (t : KeyTable) (name : String) : KeyTable × Option Conflict :=
  let key := Key.ofName name t.format
  let entries := t.entries ++ [(name, key)]
  match t.owner? key with
  | none => (⟨t.format, entries, t.owners ++ [(key, name)], t.conflicts⟩, none)
  | some owner =>
    let conflict : Conflict := ⟨key, owner, name⟩
    (⟨t.format, entries, t.owners, t.conflicts ++ [conflict]⟩, some conflict)

def addAll (t : KeyTable) (names : List String) : KeyTable :=
  names.foldl (fun t name => (t.add name).1) t

def clear (t : KeyTable) : KeyTable :=
  ⟨t.format, [], [], []⟩

def ofNames (names : List String) (f : KeyFormat := .standard) : KeyTable :=
  addAll ⟨f, [], [], []⟩ names

end KeyTable

/-- The conflicts among case names under one format, ordered by the later name. -/
def detectConflicts (names : List String) (f : KeyFormat := .standard) : List Conflict :=
  (KeyTable.ofNames names f).conflicts

end CaseKeys
