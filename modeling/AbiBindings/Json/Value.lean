import AbiBindings.Json.Number

/-!
# JSON values

Objects keep their members as they are written; where a key is repeated, the last member counts.
-/

namespace AbiBindings

/-- A JSON value. -/
inductive Json where
  | null
  | bool (b : Bool)
  | number (n : Json.Number)
  | string (s : String)
  | array (items : List Json)
  | object (members : List (String × Json))

namespace Json

/-- The value of the last of the members with the given key. -/
def lastMember? (key : String) : List (String × Json) → Option Json
  | [] => none
  | (k, v) :: rest =>
    match lastMember? key rest with
    | some found => some found
    | none => if k = key then some v else none

/-- The member of an object with the given key; other values have no members. -/
def get? (v : Json) (key : String) : Option Json :=
  match v with
  | object members => lastMember? key members
  | _ => none

/-- The text of a string value. -/
def string? : Json → Option String
  | string s => some s
  | _ => none

/-- The truth value of a boolean value. -/
def bool? : Json → Option Bool
  | bool b => some b
  | _ => none

/-- The text member of an object with the given key. -/
def text? (v : Json) (key : String) : Option String :=
  (v.get? key).bind string?

/-- Whether the member with the given key is the value true; anything else counts as false. -/
def flag (v : Json) (key : String) : Bool :=
  ((v.get? key).bind bool?).getD false

theorem sizeOf_lastMember?_lt {key : String} {members : List (String × Json)} {v : Json}
    (h : lastMember? key members = some v) : sizeOf v < sizeOf members := by
  induction members with
  | nil => simp [lastMember?] at h
  | cons member rest ih =>
    obtain ⟨k, w⟩ := member
    simp only [lastMember?] at h
    split at h
    · rename_i found hfound
      obtain rfl : found = v := by simpa using h
      have := ih hfound
      simp
      omega
    · split at h
      · obtain rfl : w = v := by simpa using h
        simp
        omega
      · simp at h

/-- A member is smaller than its object. -/
theorem sizeOf_get?_lt {v w : Json} {key : String} (h : v.get? key = some w) :
    sizeOf w < sizeOf v := by
  unfold get? at h
  split at h
  · have := sizeOf_lastMember?_lt h
    simp
    omega
  · simp at h

/-- An item is smaller than its array. -/
theorem sizeOf_item_lt {items : List Json} {v : Json} (h : v ∈ items) :
    sizeOf v < sizeOf (array items) := by
  have := List.sizeOf_lt_of_mem h
  simp
  omega

end Json

end AbiBindings
