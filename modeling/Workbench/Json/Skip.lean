import Workbench.Json.Number
import Workbench.Json.Quoted

/-!
# Passing over a value

A value whose content does not matter is read for its form alone: numbers of any size and halves of
surrogate pairs are well formed.  The lists and objects that are still open stand in a list of
frames, innermost first, so values may be nested to any depth.
-/

namespace Workbench.Json

/-- an open list or object -/
inductive Frame where
  | list
  | object
  deriving DecidableEq, Repr

namespace Frame

/-- the bracket that closes it -/
def close : Frame → Char
  | .list => ']'
  | .object => '\x7d'

/-- the text ended inside it -/
def ended : Frame → Fault
  | .list => .endInList
  | .object => .endInObject

/-- neither a comma nor the bracket that closes it followed a value -/
def unseparated : Frame → Fault
  | .list => .expectedCommaInList
  | .object => .expectedCommaInObject

end Frame

/-- passes over the key of an object and the colon behind it -/
def skipKey : Reader Unit := fun s =>
  match next? s with
  | none => .error (.next .endInObject [])
  | some ⟨c, r, hr⟩ =>
    if c = '"' then
      match skipString r with
      | .error e => .error e
      | .ok t =>
        match next? t.rest with
        | none => .error (.next .endInObject [])
        | some ⟨c', r', hr'⟩ =>
          if c' = ':' then .ok ⟨(), r', by have := t.shorter; omega⟩
          else .error (.next .expectedColon (c' :: r'))
    else .error (.next .key (c :: r))

/-- passes over what has to stand in front of the next value of a frame -/
def Frame.skipKey {n : Nat} (f : Frame) (s : Text) (shorter : s.length < n) :
    Except Refusal (Taken Unit n) :=
  match f with
  | .list => .ok ⟨(), s, shorter⟩
  | .object => (Json.skipKey s).map (·.widen (Nat.le_of_lt shorter))

/-- what begins where a value is expected -/
inductive Opening where
  /-- a value that holds no others -/
  | single
  | frame (f : Frame)

/-- passes over a value that holds no others, or over the bracket that opens one that does -/
def skipOpening : Reader Opening := fun s =>
  match next? s with
  | none => .error (.next .endInValue [])
  | some ⟨c, r, hr⟩ =>
    let single (e : Except Refusal (Taken Unit (r.length + 1))) :
        Except Refusal (Taken Opening s.length) :=
      e.map fun t => (t.map fun _ => .single).widen hr
    if c = 'n' then single (readWord "ull".toList r)
    else if c = 't' then single (readWord "rue".toList r)
    else if c = 'f' then single (readWord "alse".toList r)
    else if c = '-' then single ((skipNumber r).map (·.widen (Nat.le_succ _)))
    else if isDigit c then single ((skipNumber (c :: r)).map (·.widen (Nat.le_refl _)))
    else if c = '"' then single ((skipString r).map (·.widen (Nat.le_succ _)))
    else if c = '[' then .ok ⟨.frame .list, r, hr⟩
    else if c = '\x7b' then .ok ⟨.frame .object, r, hr⟩
    else .error (.next .expectedValue (c :: r))

mutual

/-- passes over a value and what is left of the frames around it -/
def skipFrames (frames : List Frame) (s : Text) : Except Refusal (Taken Unit s.length) :=
  match skipOpening s with
  | .error e => .error e
  | .ok ⟨.single, r, hr⟩ => (leaveFrames frames r).map (·.widen hr)
  | .ok ⟨.frame f, r, hr⟩ =>
    match next? r with
    | none => .error (.next f.ended [])
    | some ⟨c, r', hr'⟩ =>
      if c = f.close then
        (leaveFrames frames r').map (·.widen (Nat.lt_trans hr' hr))
      else
        match f.skipKey r hr with
        | .error e => .error e
        | .ok t => (skipFrames (f :: frames) t.rest).map (·.widen (Nat.le_of_lt t.shorter))
  termination_by (s.length, 0)
  decreasing_by
    · exact Prod.Lex.left _ _ hr
    · exact Prod.Lex.left _ _ (Nat.lt_trans hr' hr)
    · exact Prod.Lex.left _ _ t.shorter

/-- passes over what is left of some frames behind a value -/
def leaveFrames (frames : List Frame) (s : Text) : Except Refusal (Taken Unit (s.length + 1)) :=
  match frames with
  | [] => .ok ⟨(), s, Nat.lt_succ_self _⟩
  | f :: outer =>
    match next? s with
    | none => .error (.next f.ended [])
    | some ⟨c, r, hr⟩ =>
      if c = ',' then
        match f.skipKey r hr with
        | .error e => .error e
        | .ok t =>
          (skipFrames (f :: outer) t.rest).map
            (·.widen (Nat.le_succ_of_le (Nat.le_of_lt t.shorter)))
      else if c = f.close then
        (leaveFrames outer r).map (·.widen (Nat.le_succ_of_le hr))
      else .error (.next f.unseparated (c :: r))
  termination_by (s.length, 1)
  decreasing_by
    · exact Prod.Lex.left _ _ t.shorter
    · exact Prod.Lex.left _ _ hr

end

/-- passes over a value -/
def skipValue : Reader Unit := skipFrames []

end Workbench.Json
