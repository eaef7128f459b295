import Mathlib.Data.List.Basic
import Mathlib.Tactic.Common

/-! JSON values. The entries of an object are looked up and set by name; their order means nothing. -/

set_option autoImplicit false

namespace Skimasque.Library

inductive Json where
  | null
  | bool (value : Bool)
  /-- A number, as it is written. -/
  | number (text : String)
  | string (text : String)
  | array (items : List Json)
  | object (entries : List (String × Json))

namespace Json

abbrev Entries := List (String × Json)

def get (name : String) : Entries → Option Json
  | [] => none
  | entry :: rest => if entry.1 = name then some entry.2 else get name rest

def set (name : String) (value : Json) : Entries → Entries
  | [] => [(name, value)]
  | entry :: rest => if entry.1 = name then (name, value) :: rest else entry :: set name value rest

/-- `entry(name).or_insert(value)`. -/
def orInsert (name : String) (value : Json) (entries : Entries) : Entries :=
  if (get name entries).isSome then entries else set name value entries

def asStr : Json → Option String
  | string text => some text
  | _ => none

def asArray : Json → Option (List Json)
  | array items => some items
  | _ => none

def asObject : Json → Option Entries
  | object entries => some entries
  | _ => none

/-- What stands at the end of a path of names. -/
def at? : List String → Json → Option Json
  | [], value => some value
  | name :: rest, object entries => (get name entries).bind (at? rest)
  | _ :: _, _ => none

variable {name other : String} {value : Json} {entries : Entries}

@[simp] theorem get_set_self : get name (set name value entries) = some value := by
  induction entries with
  | nil => simp [set, get]
  | cons entry rest ih =>
    by_cases here : entry.1 = name
    · simp [set, get, here]
    · simp [set, get, here, ih]

theorem get_set_ne (different : other ≠ name) : get other (set name value entries) = get other entries := by
  induction entries with
  | nil => simp [set, get, Ne.symm different]
  | cons entry rest ih =>
    by_cases here : entry.1 = name
    · simp [set, get, here, Ne.symm different]
    · simp [set, get, here, ih]

/-- Setting what is there already changes nothing. -/
theorem set_get (found : get name entries = some value) : set name value entries = entries := by
  induction entries with
  | nil => cases found
  | cons entry rest ih =>
    by_cases here : entry.1 = name
    · rw [get, if_pos here] at found
      cases found
      rw [set, if_pos here, ← here]
    · rw [get, if_neg here] at found
      rw [set, if_neg here, ih found]

theorem get_orInsert_self : get name (orInsert name value entries) = some ((get name entries).getD value) := by
  unfold orInsert
  cases found : get name entries with
  | none => simp
  | some there => simp [found]

theorem get_orInsert_ne (different : other ≠ name) : get other (orInsert name value entries) = get other entries := by
  unfold orInsert
  split
  · rfl
  · exact get_set_ne different

theorem orInsert_get (found : (get name entries).isSome) : orInsert name value entries = entries := if_pos found

end Json

end Skimasque.Library
