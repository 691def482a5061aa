import Workbench.Proofs.Json.Named
import Workbench.Settings.Loading

/-!
# Settings that are read

A document names some of the settings, in any order and with anything else between them.  Reading it
gives the defaults with just the settings that it names replaced; a setting or a section that is
named twice, or a value that a setting cannot have, is an error, whatever else the document says
(`Settings.parse_document`).

For each section there are the changes that it can name (`LogChanges`, `LexerChanges`,
`InterpreterChanges`), and what can be wrong with it (`LogFlaw`, `LexerFlaw`, `InterpreterFlaw`).
-/

namespace Workbench

open Json

variable {es : List Json.Entry} {t v : Text}

/-! ## levels -/

/-- a string that stands for the name of a level -/
def IsLevel (v : Text) (l : Level) : Prop := Denotes v l.name.toList

namespace Level

def named : List (String × Level) := all.map fun l => (l.name, l)

theorem knows_named_iff {x : Text} {l : Level} : Knows named x l ↔ x = l.name.toList := by
  constructor
  · rintro ⟨k, hk, rfl⟩
    have hmem := List.mem_of_find?_eq_some hk
    have hname := List.find?_some hk
    obtain ⟨l, -, rfl⟩ := List.mem_map.1 hmem
    exact (eq_of_beq hname).symm
  · rintro rfl
    exact ⟨(l.name, l), by cases l <;> decide, rfl⟩

theorem isChoice_iff {l : Level} : IsChoice named v l ↔ IsLevel v l := by
  constructor
  · rintro ⟨x, hx, hknown⟩
    rwa [knows_named_iff.1 hknown] at hx
  · intro h
    exact ⟨_, h, knows_named_iff.2 rfl⟩

theorem reads : ReadsAs Level.read IsLevel := by
  intro v l hv
  exact reads_choice (isChoice_iff.2 hv)

theorem reads_optional : ReadsAs (optional Level.read) (IsOptional IsLevel) :=
  Json.reads_optional reads fun h => by
    obtain ⟨w, rfl, -⟩ := h
    exact ⟨w, rfl⟩

theorem isLevel_of_takes {w : Text} {l : Level} (h : Takes Level.read (quoted w) l) :
    IsLevel (quoted w) l :=
  isChoice_iff.1 (isChoice_of_takes h)

end Level

/-! ## the log -/

structure LogChanges where
  level : Option Level := none
  lexer : Option (Option Level) := none

namespace LogChanges

def applyTo (c : LogChanges) (s : LogSettings) : LogSettings :=
  { s with level := c.level.getD s.level, lexer := c.lexer.getD s.lexer }

/-- the entries name just these changes -/
structure NamedBy (c : LogChanges) (es : List Json.Entry) : Prop where
  level : Names IsLevel "level" es c.level
  lexer : Names (IsOptional IsLevel) "lexer" es c.lexer

end LogChanges

inductive LogFlaw (es : List Json.Entry) : Prop
  | repeated {name : String} (hname : name ∈ ["level", "lexer"])
      (h : 1 < (valuesOf name es).length) : LogFlaw es
  | level {name : String} {w : Text} (hname : name ∈ ["level", "lexer"])
      (hw : quoted w ∈ valuesOf name es) (h : ∀ l, ¬ IsLevel (quoted w) l) : LogFlaw es

namespace LogSettings

def slots : List (Slot LogSettings) :=
  [⟨"level", Level.read, level, fun s l => { s with level := l }, fun _ _ => rfl⟩,
    ⟨"lexer", optional Level.read, lexer, fun s l => { s with lexer := l }, fun _ _ => rfl⟩]

theorem apart_slots : slots.Pairwise Slot.Apart := by
  simp [slots, Slot.apart_iff]

theorem field_level : Field members "level" Level.read level :=
  .of_slots apart_slots 0 (by decide)

theorem field_lexer : Field members "lexer" (optional Level.read) lexer :=
  .of_slots apart_slots 1 (by decide)

theorem changing : Changing members {} LogChanges.NamedBy (·.applyTo {}) where
  agrees := by
    simp only [members, List.forall_mem_cons]
    exact ⟨agrees_of agrees_choice, agrees_of (agrees_optional agrees_choice),
      List.forall_mem_nil _⟩
  suits := by
    intro c es hc
    simp only [members, List.forall_mem_cons]
    exact ⟨hc.level.suits Level.reads, hc.lexer.suits Level.reads_optional, List.forall_mem_nil _⟩
  eq_result := by
    intro c es a hc h
    have hlevel := h.field field_level Level.reads hc.level
    have hlexer := h.field field_lexer Level.reads_optional hc.lexer
    cases a
    exact congr (congrArg mk hlevel) hlexer

theorem not_applies_of_flaw {a a' : LogSettings} (hflaw : LogFlaw es) :
    ¬ Applies members [] es a a' := by
  intro h
  cases hflaw with
  | repeated hname hlt => exact absurd (h.length_le hname) (Nat.not_le.2 hlt)
  | @level name w hname hw hnot =>
    simp only [List.mem_cons, List.not_mem_nil, or_false] at hname
    rcases hname with rfl | rfl
    · obtain ⟨l, hl⟩ := h.exists_takes field_level hw
      exact hnot l (Level.isLevel_of_takes hl)
    · obtain ⟨o, ho⟩ := h.exists_takes field_lexer hw
      obtain ⟨l, hl⟩ := exists_takes_of_optional ho
      exact hnot l (Level.isLevel_of_takes hl)

end LogSettings

/-! ## the lexer -/

structure LexerChanges where
  mode : Option String := none
  coalesce : Option Bool := none

namespace LexerChanges

def applyTo (c : LexerChanges) (s : LexerSettings) : LexerSettings :=
  { s with mode := c.mode.getD s.mode, coalesce := c.coalesce.getD s.coalesce }

/-- the entries name just these changes -/
structure NamedBy (c : LexerChanges) (es : List Json.Entry) : Prop where
  mode : Names IsString "mode" es c.mode
  coalesce : Names IsBoolean "coalesce" es c.coalesce

end LexerChanges

inductive LexerFlaw (es : List Json.Entry) : Prop
  | repeated {name : String} (hname : name ∈ ["mode", "coalesce"])
      (h : 1 < (valuesOf name es).length) : LexerFlaw es
  | mode {v : Text} (hv : v ∈ valuesOf "mode" es) (h : ∀ a, ¬ IsString v a) : LexerFlaw es
  | coalesce {v : Text} (hv : v ∈ valuesOf "coalesce" es) (h : ∀ b, ¬ IsBoolean v b) :
      LexerFlaw es

namespace LexerSettings

def slots : List (Slot LexerSettings) :=
  [⟨"mode", string, mode, fun s m => { s with mode := m }, fun _ _ => rfl⟩,
    ⟨"coalesce", boolean, coalesce, fun s b => { s with coalesce := b }, fun _ _ => rfl⟩]

theorem apart_slots : slots.Pairwise Slot.Apart := by
  simp [slots, Slot.apart_iff]

theorem field_mode : Field members "mode" string mode :=
  .of_slots apart_slots 0 (by decide)

theorem field_coalesce : Field members "coalesce" boolean coalesce :=
  .of_slots apart_slots 1 (by decide)

theorem changing : Changing members {} LexerChanges.NamedBy (·.applyTo {}) where
  agrees := by
    simp only [members, List.forall_mem_cons]
    exact ⟨agrees_of agrees_string, agrees_of agrees_boolean, List.forall_mem_nil _⟩
  suits := by
    intro c es hc
    simp only [members, List.forall_mem_cons]
    exact ⟨hc.mode.suits reads_string, hc.coalesce.suits reads_boolean, List.forall_mem_nil _⟩
  eq_result := by
    intro c es a hc h
    have hmode := h.field field_mode reads_string hc.mode
    have hcoalesce := h.field field_coalesce reads_boolean hc.coalesce
    cases a
    exact congr (congrArg mk hmode) hcoalesce

theorem not_applies_of_flaw {a a' : LexerSettings} (hvalues : ∀ e ∈ es, IsValue e.2)
    (hflaw : LexerFlaw es) : ¬ Applies members [] es a a' := by
  intro h
  have hvalue {name : String} {v : Text} (hv : v ∈ valuesOf name es) : IsValue v := by
    obtain ⟨e, he, rfl⟩ := exists_of_mem_valuesOf hv
    exact hvalues e he
  cases hflaw with
  | repeated hname hlt => exact absurd (h.length_le hname) (Nat.not_le.2 hlt)
  | mode hv hnot =>
    obtain ⟨a, ha⟩ := h.exists_takes field_mode hv
    exact hnot a (isString_of_takes (hvalue hv) ha)
  | coalesce hv hnot =>
    obtain ⟨b, hb⟩ := h.exists_takes field_coalesce hv
    exact hnot b (isBoolean_of_takes (hvalue hv) hb)

end LexerSettings

/-! ## the interpreter -/

structure InterpreterChanges where
  program : Option String := none
  evalFlag : Option String := none
  disassembleFlag : Option String := none
  versionFlag : Option String := none

namespace InterpreterChanges

def applyTo (c : InterpreterChanges) (s : InterpreterSettings) : InterpreterSettings :=
  { s with
    program := c.program.getD s.program
    evalFlag := c.evalFlag.getD s.evalFlag
    disassembleFlag := c.disassembleFlag.getD s.disassembleFlag
    versionFlag := c.versionFlag.getD s.versionFlag }

/-- the entries name just these changes -/
structure NamedBy (c : InterpreterChanges) (es : List Json.Entry) : Prop where
  program : Names IsString "program" es c.program
  evalFlag : Names IsString "eval_flag" es c.evalFlag
  disassembleFlag : Names IsString "disassemble_flag" es c.disassembleFlag
  versionFlag : Names IsString "version_flag" es c.versionFlag

end InterpreterChanges

inductive InterpreterFlaw (es : List Json.Entry) : Prop
  | repeated {name : String}
      (hname : name ∈ ["program", "eval_flag", "disassemble_flag", "version_flag"])
      (h : 1 < (valuesOf name es).length) : InterpreterFlaw es
  | text {name : String} {v : Text}
      (hname : name ∈ ["program", "eval_flag", "disassemble_flag", "version_flag"])
      (hv : v ∈ valuesOf name es) (h : ∀ a, ¬ IsString v a) : InterpreterFlaw es

namespace InterpreterSettings

def slots : List (Slot InterpreterSettings) :=
  [⟨"program", string, program, fun s p => { s with program := p }, fun _ _ => rfl⟩,
    ⟨"eval_flag", string, evalFlag, fun s f => { s with evalFlag := f }, fun _ _ => rfl⟩,
    ⟨"disassemble_flag", string, disassembleFlag, fun s f => { s with disassembleFlag := f },
      fun _ _ => rfl⟩,
    ⟨"version_flag", string, versionFlag, fun s f => { s with versionFlag := f },
      fun _ _ => rfl⟩]

theorem apart_slots : slots.Pairwise Slot.Apart := by
  simp [slots, Slot.apart_iff]

theorem field_program : Field members "program" string program :=
  .of_slots apart_slots 0 (by decide)

theorem field_evalFlag : Field members "eval_flag" string evalFlag :=
  .of_slots apart_slots 1 (by decide)

theorem field_disassembleFlag : Field members "disassemble_flag" string disassembleFlag :=
  .of_slots apart_slots 2 (by decide)

theorem field_versionFlag : Field members "version_flag" string versionFlag :=
  .of_slots apart_slots 3 (by decide)

theorem changing : Changing members {} InterpreterChanges.NamedBy (·.applyTo {}) where
  agrees := by
    simp only [members, List.forall_mem_cons]
    exact ⟨agrees_of agrees_string, agrees_of agrees_string, agrees_of agrees_string,
      agrees_of agrees_string, List.forall_mem_nil _⟩
  suits := by
    intro c es hc
    simp only [members, List.forall_mem_cons]
    exact ⟨hc.program.suits reads_string, hc.evalFlag.suits reads_string,
      hc.disassembleFlag.suits reads_string, hc.versionFlag.suits reads_string,
      List.forall_mem_nil _⟩
  eq_result := by
    intro c es a hc h
    have hprogram := h.field field_program reads_string hc.program
    have heval := h.field field_evalFlag reads_string hc.evalFlag
    have hdisassemble := h.field field_disassembleFlag reads_string hc.disassembleFlag
    have hversion := h.field field_versionFlag reads_string hc.versionFlag
    cases a
    exact congr (congr (congr (congrArg mk hprogram) heval) hdisassemble) hversion

theorem not_applies_of_flaw {a a' : InterpreterSettings} (hvalues : ∀ e ∈ es, IsValue e.2)
    (hflaw : InterpreterFlaw es) : ¬ Applies members [] es a a' := by
  intro h
  cases hflaw with
  | repeated hname hlt => exact absurd (h.length_le hname) (Nat.not_le.2 hlt)
  | @text name v hname hv hnot =>
    obtain ⟨e, he, rfl⟩ := exists_of_mem_valuesOf hv
    have htakes : ∃ a, Takes string e.2 a := by
      simp only [List.mem_cons, List.not_mem_nil, or_false] at hname
      rcases hname with rfl | rfl | rfl | rfl
      · exact h.exists_takes field_program hv
      · exact h.exists_takes field_evalFlag hv
      · exact h.exists_takes field_disassembleFlag hv
      · exact h.exists_takes field_versionFlag hv
    obtain ⟨a, ha⟩ := htakes
    exact hnot a (isString_of_takes (hvalues e he) ha)

end InterpreterSettings

/-! ## documents -/

structure Changes where
  log : Option LogChanges := none
  lexer : Option LexerChanges := none
  interpreter : Option InterpreterChanges := none

namespace Changes

def applyTo (c : Changes) (s : Settings) : Settings :=
  { s with
    log := (c.log.getD {}).applyTo s.log
    lexer := (c.lexer.getD {}).applyTo s.lexer
    interpreter := (c.interpreter.getD {}).applyTo s.interpreter }

/-- the entries name just these changes -/
structure NamedBy (c : Changes) (es : List Json.Entry) : Prop where
  log : Names (IsNaming LogChanges.NamedBy) "log" es c.log
  lexer : Names (IsNaming LexerChanges.NamedBy) "lexer" es c.lexer
  interpreter : Names (IsNaming InterpreterChanges.NamedBy) "interpreter" es c.interpreter

end Changes

/-- what is wrong with the entries of a document -/
inductive Flaw (es : List Json.Entry) : Prop
  | repeated {name : String} (hname : name ∈ ["log", "lexer", "interpreter"])
      (h : 1 < (valuesOf name es).length) : Flaw es
  | log {v : Text} {ms : List Json.Entry} (hv : v ∈ valuesOf "log" es) (hobject : IsObject ms v)
      (h : LogFlaw ms) : Flaw es
  | lexer {v : Text} {ms : List Json.Entry} (hv : v ∈ valuesOf "lexer" es)
      (hobject : IsObject ms v) (h : LexerFlaw ms) : Flaw es
  | interpreter {v : Text} {ms : List Json.Entry} (hv : v ∈ valuesOf "interpreter" es)
      (hobject : IsObject ms v) (h : InterpreterFlaw ms) : Flaw es

/-- a document that is an object with the given entries -/
inductive IsDocument (es : List Json.Entry) : Text → Prop
  | mk {b v b' : Text} (hb : IsBlanks b) (hv : IsObject es v) (hb' : IsBlanks b') :
      IsDocument es (b ++ (v ++ b'))

namespace Settings

def slots : List (Slot Settings) :=
  [⟨"log", LogSettings.read, log, fun s l => { s with log := l }, fun _ _ => rfl⟩,
    ⟨"lexer", LexerSettings.read, lexer, fun s l => { s with lexer := l }, fun _ _ => rfl⟩,
    ⟨"interpreter", InterpreterSettings.read, interpreter, fun s i => { s with interpreter := i },
      fun _ _ => rfl⟩]

theorem apart_slots : slots.Pairwise Slot.Apart := by
  simp [slots, Slot.apart_iff]

theorem field_log : Field members "log" LogSettings.read log :=
  .of_slots apart_slots 0 (by decide)

theorem field_lexer : Field members "lexer" LexerSettings.read lexer :=
  .of_slots apart_slots 1 (by decide)

theorem field_interpreter : Field members "interpreter" InterpreterSettings.read interpreter :=
  .of_slots apart_slots 2 (by decide)

/-- the changes of a section become a value of its record -/
theorem names_result {γ σ : Type} {NamedBy : γ → List Json.Entry → Prop} {result : γ → σ}
    {name : String} {o : Option γ} (h : Names (IsNaming NamedBy) name es o) :
    Names (fun v a => ∃ c, IsNaming NamedBy v c ∧ result c = a) name es (o.map result) :=
  h.map fun hv => ⟨_, hv, rfl⟩

theorem changing : Changing members {} Changes.NamedBy (·.applyTo {}) where
  agrees := by
    simp only [members, List.forall_mem_cons]
    exact ⟨agrees_of (agrees_record LogSettings.changing.agrees {}),
      agrees_of (agrees_record LexerSettings.changing.agrees {}),
      agrees_of (agrees_record InterpreterSettings.changing.agrees {}), List.forall_mem_nil _⟩
  suits := by
    intro c es hc
    simp only [members, List.forall_mem_cons]
    exact ⟨(names_result hc.log).suits LogSettings.changing.reads,
      (names_result hc.lexer).suits LexerSettings.changing.reads,
      (names_result hc.interpreter).suits InterpreterSettings.changing.reads, List.forall_mem_nil _⟩
  eq_result := by
    intro c es a hc h
    have hlog := h.field field_log LogSettings.changing.reads (names_result hc.log)
    have hlexer := h.field field_lexer LexerSettings.changing.reads (names_result hc.lexer)
    have hinterpreter := h.field field_interpreter InterpreterSettings.changing.reads
      (names_result hc.interpreter)
    cases a
    refine congr (congr (congrArg mk (hlog.trans ?_)) (hlexer.trans ?_)) (hinterpreter.trans ?_)
    · exact Option.getD_map (·.applyTo {}) {} c.log
    · exact Option.getD_map (·.applyTo {}) {} c.lexer
    · exact Option.getD_map (·.applyTo {}) {} c.interpreter

theorem not_applies_of_flaw {a a' : Settings} (hflaw : Flaw es) :
    ¬ Applies members [] es a a' := by
  intro h
  cases hflaw with
  | repeated hname hlt => exact absurd (h.length_le hname) (Nat.not_le.2 hlt)
  | log hv hobject hflaw =>
    obtain ⟨s, hs⟩ := h.exists_takes field_log hv
    exact LogSettings.not_applies_of_flaw hflaw (LogSettings.changing.applies_of_takes hobject hs)
  | lexer hv hobject hflaw =>
    obtain ⟨s, hs⟩ := h.exists_takes field_lexer hv
    exact LexerSettings.not_applies_of_flaw hobject.values hflaw
      (LexerSettings.changing.applies_of_takes hobject hs)
  | interpreter hv hobject hflaw =>
    obtain ⟨s, hs⟩ := h.exists_takes field_interpreter hv
    exact InterpreterSettings.not_applies_of_flaw hobject.values hflaw
      (InterpreterSettings.changing.applies_of_takes hobject hs)

theorem parse_of_ok {s : Settings} (h : ofText t = .ok s) : parse t = .ok s := by
  rw [parse, h]
  rfl

theorem parse_of_error {r : Refusal} (h : ofText t = .error r) : parse t = .error (.text t r) := by
  rw [parse, h]
  rfl

/-! ## two documents -/

theorem isDocument_write {es : List Json.Entry} (h : IsObject es (writeObject es)) :
    IsDocument es (writeObject es) := by
  have hdocument : IsDocument es ([] ++ (writeObject es ++ [])) := .mk isBlanks_nil h isBlanks_nil
  rwa [List.nil_append, List.append_nil] at hdocument

/-- entries for the log, with one between them that is not known -/
def mixedLogEntries : List Json.Entry :=
  [("lexer".toList, "null".toList), ("y".toList, "true".toList),
    ("level".toList, quoted "debug".toList)]

/-- entries for a document, with a section that names nothing -/
def mixedEntries : List Json.Entry :=
  [("x".toList, "null".toList), ("log".toList, writeObject mixedLogEntries),
    ("lexer".toList, writeObject [])]

def mixedChanges : Changes :=
  { log := some { level := some .debug, lexer := some none }, lexer := some {} }

theorem isObject_empty : IsObject [] (writeObject []) :=
  isObject_write rfl fun _ he => absurd he List.not_mem_nil

theorem isObject_mixedLogEntries : IsObject mixedLogEntries (writeObject mixedLogEntries) := by
  refine isObject_write rfl ?_
  simp only [mixedLogEntries, List.forall_mem_cons]
  exact ⟨.atom .null, .atom .yes, .atom (.string (Spells.of_plain rfl).isBody),
    List.forall_mem_nil _⟩

theorem isDocument_mixedEntries : IsDocument mixedEntries (writeObject mixedEntries) := by
  refine isDocument_write (isObject_write rfl ?_)
  simp only [mixedEntries, List.forall_mem_cons]
  exact ⟨.atom .null, isObject_mixedLogEntries.isValue, isObject_empty.isValue,
    List.forall_mem_nil _⟩

theorem namedBy_mixedEntries : mixedChanges.NamedBy mixedEntries where
  log := by
    have hlevel : IsLevel (quoted "debug".toList) .debug := ⟨_, rfl, .of_plain rfl⟩
    exact .given rfl ⟨_, isObject_mixedLogEntries, .given rfl hlevel, .given rfl .null⟩
  lexer := .given rfl ⟨_, isObject_empty, .missing rfl, .missing rfl⟩
  interpreter := .missing rfl

/-- a number in the place of a boolean -/
def unfitLexerEntries : List Json.Entry := [("coalesce".toList, ['1'])]

def unfitEntries : List Json.Entry := [("lexer".toList, writeObject unfitLexerEntries)]

theorem isObject_unfitLexerEntries :
    IsObject unfitLexerEntries (writeObject unfitLexerEntries) := by
  have hdigit : IsWhole ['1'] := .digits rfl (by decide) (List.forall_mem_nil _)
  have hone : IsUnsigned (['1'] ++ ([] ++ [])) := .mk hdigit .none .none
  exact isObject_write rfl (List.forall_mem_singleton.2 (.atom (.natural hone)))

theorem isDocument_unfitEntries : IsDocument unfitEntries (writeObject unfitEntries) :=
  isDocument_write
    (isObject_write rfl (List.forall_mem_singleton.2 isObject_unfitLexerEntries.isValue))

theorem flaw_unfitEntries : Flaw unfitEntries := by
  have hone : ∀ b, ¬ IsBoolean ['1'] b := by
    intro b hb
    generalize hv : ['1'] = v at hb
    cases hb with
    | yes | no => exact absurd hv (by decide)
  exact .lexer List.mem_cons_self isObject_unfitLexerEntries (.coalesce List.mem_cons_self hone)

/-! ## reading a document -/

/-- A document that names some of the settings gives the defaults with just these replaced; one in
which something is wrong with a setting is an error of the text. -/
theorem parse_document (ht : IsDocument es t) :
    (∀ c : Changes, c.NamedBy es → parse t = .ok (c.applyTo {}))
      ∧ (Flaw es → ∃ r, parse t = .error (.text t r)) := by
  obtain @⟨b, v, b', hb, hv, hb'⟩ := ht
  constructor
  · intro c hc
    have hread : Gives (Settings.read (b ++ (v ++ b'))) (c.applyTo {}) b' :=
      changing.reads ⟨c, ⟨es, hv, hc⟩, rfl⟩ hb b'
    exact parse_of_ok (readDocument_eq_ok hread hb')
  · intro hflaw
    cases hparse : ofText (b ++ (v ++ b')) with
    | error r => exact ⟨r, parse_of_error hparse⟩
    | ok s =>
      obtain ⟨r, hread⟩ := gives_of_readDocument hparse
      obtain ⟨-, happlies⟩ := applies_of_gives_record hv hb changing.agrees hread
      exact absurd happlies (not_applies_of_flaw hflaw)

/-- unknown members at both levels and a section without members; a value of another kind -/
theorem parse_document_with_unknown :
    (IsDocument mixedEntries (writeObject mixedEntries) ∧ mixedChanges.NamedBy mixedEntries
        ∧ parse ("\x7b\"x\":null,\"log\":\x7b\"lexer\":null,\"y\":true,\"level\":\"debug\"\x7d,"
          ++ "\"lexer\":\x7b\x7d\x7d").toList = .ok { log := { level := .debug } })
      ∧ IsDocument unfitEntries (writeObject unfitEntries) ∧ Flaw unfitEntries
        ∧ ∃ r, parse "\x7b\"lexer\":\x7b\"coalesce\":1\x7d\x7d".toList
          = .error (.text "\x7b\"lexer\":\x7b\"coalesce\":1\x7d\x7d".toList r) := by
  refine ⟨⟨isDocument_mixedEntries, namedBy_mixedEntries, ?_⟩, isDocument_unfitEntries,
    flaw_unfitEntries, ?_⟩
  · exact (parse_document isDocument_mixedEntries).1 mixedChanges namedBy_mixedEntries
  · exact (parse_document isDocument_unfitEntries).2 flaw_unfitEntries

end Settings

end Workbench
