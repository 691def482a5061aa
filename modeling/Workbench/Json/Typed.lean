import Workbench.Json.Skip

/-!
# Reading values of a known type

Readers for the places of a document whose type is known.  A choice is one of several names.  A
record is an object with some of the named members, in any order and with others between them, or a
list of the members' values in their order.  What a record does not name keeps the value it had, and
a member may be named once.
-/

namespace Workbench.Json

variable {α β : Type}

/-! ## values of another kind -/

/-- the refusal of a value, which begins with `c`, where another kind is expected -/
def refuseValue (expected : String) (c : Char) (r : Text) : Refusal :=
  let refuse {n : Nat} (e : Except Refusal (Taken Found n)) : Refusal :=
    match e with
    | .error e => e
    | .ok t => .misfit (.kind t.value expected) t.rest
  let word (w : String) (found : Found) : Refusal :=
    refuse ((readWord w.toList r).map (·.map fun _ => found))
  if c = 'n' then word "ull" .null
  else if c = 't' then word "rue" (.boolean true)
  else if c = 'f' then word "alse" (.boolean false)
  else if c = '-' then refuse ((readNumber true r).map (·.map .number))
  else if isDigit c then refuse ((readNumber false (c :: r)).map (·.map .number))
  else if c = '"' then refuse ((readString r).map (·.map .string))
  else if c = '[' then .misfit (.kind .list expected) (c :: r)
  else if c = '\x7b' then .misfit (.kind .object expected) (c :: r)
  else .next .expectedValue (c :: r)

/-! ## single values -/

def boolean : Reader Bool := fun s =>
  match next? s with
  | none => .error (.next .endInValue [])
  | some ⟨c, r, hr⟩ =>
    if c = 't' then (readWord "rue".toList r).map fun t => (t.map fun _ => true).widen hr
    else if c = 'f' then (readWord "alse".toList r).map fun t => (t.map fun _ => false).widen hr
    else .error (refuseValue "a boolean" c r)

def string : Reader String := fun s =>
  match next? s with
  | none => .error (.next .endInValue [])
  | some ⟨c, r, hr⟩ =>
    if c = '"' then
      (readString r).map fun t => (t.map String.ofList).widen (Nat.le_of_lt hr)
    else .error (refuseValue "a string" c r)

def null : Reader Unit := fun s =>
  match next? s with
  | none => .error (.next .endInValue [])
  | some ⟨c, r, hr⟩ =>
    if c = 'n' then (readWord "ull".toList r).map (·.widen hr)
    else .error (refuseValue "unit" c r)

/-- a value, or `null` for none -/
def optional (read : Reader α) : Reader (Option α) := fun s =>
  match next? s with
  | some ⟨'n', r, hr⟩ => (readWord "ull".toList r).map fun t => (t.map fun _ => none).widen hr
  | _ => (read s).map (·.map some)

/-! ## choices -/

/-- the value of a name, which was read up to `rest` -/
def chosen {n : Nat} (known : List (String × α)) (name : Taken Text n) :
    Except Refusal (Taken α n) :=
  match known.find? fun k => k.1.toList == name.value with
  | some k => .ok (name.map fun _ => k.2)
  | none => .error (.misfit (.variant name.value (known.map (·.1))) name.rest)

/-- passes over a colon -/
def colon : Reader Unit := fun s =>
  match next? s with
  | none => .error (.next .endInObject [])
  | some ⟨c, r, hr⟩ => if c = ':' then .ok ⟨(), r, hr⟩ else .error (.next .expectedColon (c :: r))

/-- the key of an object with one member, behind its opening brace -/
def onlyKey : Reader Text := fun s =>
  match next? s with
  | none => .error (.next .endInObject [])
  | some ⟨c, r, hr⟩ =>
    if c = '"' then (readString r).map (·.widen (Nat.le_of_lt hr))
    else .error (.next .key (c :: r))

/-- a choice written as an object with one member, which is null, behind its opening brace -/
def choiceObject (known : List (String × α)) : Reader α := fun s =>
  match onlyKey s with
  | .error e => .error e
  | .ok name =>
    match chosen known name with
    | .error e => .error e
    | .ok a =>
      match colon a.rest with
      | .error e => .error e
      | .ok t =>
        match null t.rest with
        | .error e => .error e
        | .ok u =>
          match next? u.rest with
          | none => .error (.here .endInObject [])
          | some ⟨c, r, hr⟩ =>
            if c = '\x7d' then
              .ok ⟨a.value, r, by
                have := a.shorter; have := t.shorter; have := u.shorter; omega⟩
            else .error (.here .expectedValue (c :: r))

/-- one of some names, as a string or as the key of an object with the value null -/
def choice (known : List (String × α)) : Reader α := fun s =>
  match next? s with
  | none => .error (.next .endInValue [])
  | some ⟨c, r, hr⟩ =>
    if c = '"' then
      match readString r with
      | .error e => .error e
      | .ok name => chosen known (name.widen (Nat.le_of_lt hr))
    else if c = '\x7b' then (choiceObject known r).map (·.widen (Nat.le_of_lt hr))
    else .error (.next .expectedValue (c :: r))

/-! ## lists -/

/-- looks for the next element of a list, and passes over the bracket if there is none -/
def nextElement (first : Bool) (s : Text) : Except Refusal (Taken Bool (s.length + 1)) :=
  match next? s with
  | none => .error (.next .endInList [])
  | some ⟨c, r, hr⟩ =>
    if c = ']' then .ok ⟨false, r, Nat.lt_succ_of_lt hr⟩
    else if first then .ok ⟨true, c :: r, Nat.succ_lt_succ hr⟩
    else if c = ',' then
      match next? r with
      | none => .error (.next .endInValue [])
      | some ⟨c', r', hr'⟩ =>
        if c' = ']' then .error (.next .trailingComma (c' :: r'))
        else .ok ⟨true, c' :: r', by rw [List.length_cons]; omega⟩
    else .error (.next .expectedCommaInList (c :: r))

/-- the elements of a list and its closing bracket -/
def elements (read : Reader α) (first : Bool) (s : Text) :
    Except Refusal (Taken (List α) (s.length + 1)) :=
  match nextElement first s with
  | .error e => .error e
  | .ok ⟨false, r, hr⟩ => .ok ⟨[], r, hr⟩
  | .ok ⟨true, r, hr⟩ =>
    match read r with
    | .error e => .error e
    | .ok a =>
      (elements read false a.rest).map fun as =>
        (as.map (a.value :: ·)).widen (by have := a.shorter; omega)
  termination_by s.length
  decreasing_by have := a.shorter; omega

def list (read : Reader α) : Reader (List α) := fun s =>
  match next? s with
  | none => .error (.next .endInValue [])
  | some ⟨c, r, hr⟩ =>
    if c = '[' then (elements read true r).map (·.widen hr)
    else .error (refuseValue "a sequence" c r)

/-! ## records -/

/-- a member of a record: its name, and how its value changes the record -/
structure Member (α : Type) where
  name : String
  read : α → Reader α

/-- the member that a reader and an update make -/
def Member.of (name : String) (read : Reader β) (set : α → β → α) : Member α :=
  ⟨name, fun a s => (read s).map (·.map (set a))⟩

/-- reads the next key of an object, or passes over the brace if there is none -/
def nextKey (first : Bool) (s : Text) : Except Refusal (Taken (Option Text) s.length) :=
  let key (r : Text) (hr : r.length < s.length) : Except Refusal (Taken (Option Text) s.length) :=
    (readString r).map fun t => (t.map some).widen (length_le_of_lt hr)
  match next? s with
  | none => .error (.next .endInObject [])
  | some ⟨c, r, hr⟩ =>
    if c = '\x7d' then .ok ⟨none, r, hr⟩
    else if first then
      if c = '"' then key r hr else .error (.next .key (c :: r))
    else if c = ',' then
      match next? r with
      | none => .error (.next .endInValue [])
      | some ⟨c', r', hr'⟩ =>
        if c' = '"' then key r' (length_lt_trans hr' hr)
        else if c' = '\x7d' then .error (.next .trailingComma (c' :: r'))
        else .error (.next .key (c' :: r'))
    else .error (.next .expectedCommaInObject (c :: r))

/-- a text without a closing brace at its front -/
def skipClose (s : Text) : Text :=
  match next? s with
  | some ⟨'\x7d', r, _⟩ => r
  | _ => skipBlank s

/-- the members of a record as an object, behind its opening brace -/
def objectMembers (members : List (Member α)) (seen : List String) (first : Bool) (value : α)
    (s : Text) : Except Refusal (Taken α s.length) :=
  match nextKey first s with
  | .error e => .error e
  | .ok ⟨none, r, hr⟩ => .ok ⟨value, r, hr⟩
  | .ok ⟨some key, r, hr⟩ =>
    match members.find? fun m => m.name.toList == key with
    | none =>
      match colon r with
      | .error e => .error e
      | .ok t =>
        match skipValue t.rest with
        | .error e => .error e
        | .ok u =>
          (objectMembers members seen false value u.rest).map
            (·.widen (by have := t.shorter; have := u.shorter; omega))
    | some m =>
      if m.name ∈ seen then .error (.misfit (.repeated m.name) (skipClose r))
      else
        match colon r with
        | .error e => .error e
        | .ok t =>
          match m.read value t.rest with
          | .error e => .error e
          | .ok u =>
            (objectMembers members (m.name :: seen) false u.value u.rest).map
              (·.widen (by have := t.shorter; have := u.shorter; omega))
  termination_by s.length
  decreasing_by
    · have := t.shorter; have := u.shorter; omega
    · have := t.shorter; have := u.shorter; omega

/-- passes over the bracket behind the last member of a record as a list -/
def closeList (s : Text) : Except Refusal (Taken Unit (s.length + 1)) :=
  match next? s with
  | none => .error (.next .endInList [])
  | some ⟨c, r, hr⟩ =>
    if c = ']' then .ok ⟨(), r, Nat.lt_succ_of_lt hr⟩
    else if c = ',' then
      match next? r with
      | some ⟨']', r', _⟩ => .error (.next .trailingComma (']' :: r'))
      | _ => .error (.next .trailing (skipBlank r))
    else .error (.next .trailing (c :: r))

/-- the members of a record as a list, behind its opening bracket -/
def listMembers : (members : List (Member α)) → (first : Bool) → (value : α) → (s : Text) →
    Except Refusal (Taken α (s.length + 1))
  | [], _, value, s => (closeList s).map (·.map fun _ => value)
  | m :: ms, first, value, s =>
    match nextElement first s with
    | .error e => .error e
    | .ok ⟨false, r, hr⟩ => .ok ⟨value, r, hr⟩
    | .ok ⟨true, r, hr⟩ =>
      match m.read value r with
      | .error e => .error e
      | .ok a =>
        (listMembers ms false a.value a.rest).map (·.widen (by have := a.shorter; omega))

/-- a record, under the name that a message gives it, and the value of what it does not name -/
def record (expected : String) (members : List (Member α)) (value : α) : Reader α := fun s =>
  match next? s with
  | none => .error (.next .endInValue [])
  | some ⟨c, r, hr⟩ =>
    if c = '\x7b' then (objectMembers members [] true value r).map (·.widen (Nat.le_of_lt hr))
    else if c = '[' then (listMembers members true value r).map (·.widen hr)
    else .error (refuseValue expected c r)

/-! ## documents -/

/-- the value of a document, which holds nothing else -/
def readDocument (read : Reader α) (s : Text) : Except Refusal α :=
  match read s with
  | .error e => .error e
  | .ok a =>
    match next? a.rest with
    | none => .ok a.value
    | some t => .error (.next .trailing (t.value :: t.rest))

end Workbench.Json
