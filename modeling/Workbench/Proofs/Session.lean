import Mathlib.Data.List.Forall2
import Workbench.Session

/-!
# The runs of a session

All runs of a session print into one buffer.  It is cleared before each run, so behind a run it
holds what that run printed and nothing else (`run_eq`), whether the run failed or not.  A report is
therefore a function of what the interpreter did in its run (`Execution.report`), and the reports of
a session are the reports of the executions, one by one: `reports_runAll`.

An interpreter may remember its executions; a session passes on what it remembers and adds nothing
of its own.  Of an interpreter that always does the same with a program, the report of a program is
the same in every session: `runAll_eq_executions`.
-/

namespace Workbench

/-! ## executions -/

/-- what an interpreter does with programs one after another, and what it then remembers -/
def Interpreter.executeAll {σ : Type} (i : Interpreter σ) (memory : σ) :
    List (ExecutionMode × Text) → List Execution × σ
  | [] => ([], memory)
  | (mode, source) :: rest =>
    let (e, memory') := i.execute memory mode source
    let (es, memory'') := i.executeAll memory' rest
    (e :: es, memory'')

namespace Execution

/-- the printed lines of both channels in their order, each with a newline -/
def text (e : Execution) : Text := e.printed.flatMap fun l => l.2 ++ ['\n']

/-- what is reported of an execution -/
def report (e : Execution) : RunReport := ⟨e.text, e.result.toOption, e.elapsed⟩

theorem exitCode_report_eq_some_iff (e : Execution) (code : Int) :
    e.report.exitCode = some code ↔ e.result = .ok code := by
  rw [report]
  cases e.result with
  | ok c => exact ⟨fun h => congrArg _ (Option.some.inj h), fun h => congrArg _ (Except.ok.inj h)⟩
  | error err => exact iff_of_false nofun nofun

end Execution

namespace OutputBuffer

/-- prints lines one after another -/
def printEach (b : OutputBuffer) (ls : List (Channel × Text)) : OutputBuffer :=
  ls.foldl (fun b l => b.print l.1 l.2) b

theorem printAll_eq_printEach (b : OutputBuffer) (ls : List (Channel × Text)) :
    b.printAll ls = b.printEach ls := by
  induction ls generalizing b with
  | nil => exact b.printAll_nil
  | cons l ls ih =>
    rw [printAll_cons, ih]
    rfl

/-- a cleared buffer holds what is printed into it from then on -/
theorem printAll_clear (b : OutputBuffer) (e : Execution) :
    b.clear.printAll e.printed = ⟨e.text⟩ := by
  rw [printAll, clear, List.nil_append, Execution.text]

theorem text_printEach (e : Execution) : (printEach {} e.printed).text = e.text := by
  rw [← printAll_eq_printEach]
  exact congrArg text (printAll_clear {} e)

end OutputBuffer

namespace Session

variable {σ : Type}

/-! ## one run -/

/-- a run reports its execution, and leaves in the buffer what it reports -/
theorem run_eq (s : Session σ) (mode : ExecutionMode) (source : Text) :
    s.run mode source = ((s.interpreter.execute s.memory mode source).1.report,
      ⟨s.interpreter, (s.interpreter.execute s.memory mode source).2, s.version,
        ⟨(s.interpreter.execute s.memory mode source).1.text⟩⟩) := by
  have hbuffer :=
    s.output.printAll_clear (s.interpreter.execute s.memory mode source).1
  rw [run, Execution.report, ← hbuffer]
  rfl

/-! ## runs one after another -/

theorem reports_runAll (s : Session σ) (jobs : List (ExecutionMode × Text)) :
    (s.runAll jobs).1
      = (s.interpreter.executeAll s.memory jobs).1.map Execution.report := by
  induction jobs generalizing s with
  | nil => rfl
  | cons job jobs ih =>
    obtain ⟨mode, source⟩ := job
    rw [runAll, run_eq, Interpreter.executeAll, List.map_cons]
    exact congrArg _ (ih _)

theorem version_runAll (s : Session σ) (jobs : List (ExecutionMode × Text)) :
    (s.runAll jobs).2.version = s.version := by
  induction jobs generalizing s with
  | nil => rfl
  | cons job jobs ih =>
    obtain ⟨mode, source⟩ := job
    rw [runAll, run_eq]
    exact ih _

/-- the buffer holds the output of the last report, if there is one -/
theorem output_runAll (s : Session σ) (jobs : List (ExecutionMode × Text)) :
    (s.runAll jobs).2.output.text
      = ((s.runAll jobs).1.getLast?.map RunReport.output).getD s.output.text := by
  induction jobs generalizing s with
  | nil => rfl
  | cons job jobs ih =>
    obtain ⟨mode, source⟩ := job
    rw [runAll, run_eq]
    refine (ih _).trans ?_
    rw [List.getLast?_cons]
    cases (runAll _ jobs).1.getLast? <;> rfl

/-- an interpreter that does not look at what it remembers does with each program what it does with
it at once -/
theorem executeAll_of_forall {i : Interpreter σ} {memory : σ}
    (h : ∀ memory' mode source,
      (i.execute memory' mode source).1 = (i.execute memory mode source).1)
    (memory' : σ) (jobs : List (ExecutionMode × Text)) :
    (i.executeAll memory' jobs).1 = jobs.map fun job => (i.execute memory job.1 job.2).1 := by
  induction jobs generalizing memory' with
  | nil => rfl
  | cons job jobs ih =>
    obtain ⟨mode, source⟩ := job
    rw [Interpreter.executeAll, List.map_cons]
    exact congrArg₂ _ (h memory' mode source) (ih _)

/-- Each report of a session has what its own execution printed, line by line, on either channel and
up to a failure, and the exit code that this execution gave; nothing else goes into it.  The session
shows the output of the last report, and the version is the one with which it began.  If the
interpreter remembers nothing that it looks at, the report of a program is the same in every
session. -/
theorem runAll_eq_executions (i : Interpreter σ) (memory : σ)
    (jobs : List (ExecutionMode × Text)) :
    List.Forall₂ (fun e r => r = e.report
        ∧ r.output = e.printed.flatMap (fun l => l.2 ++ ['\n'])
        ∧ r.output = (OutputBuffer.printEach {} e.printed).text
        ∧ ∀ code, r.exitCode = some code ↔ e.result = .ok code)
      (i.executeAll (i.version memory).2 jobs).1 ((start i memory).runAll jobs).1
    ∧ ((start i memory).runAll jobs).2.output.text
      = (((start i memory).runAll jobs).1.getLast?.map RunReport.output).getD []
    ∧ ((start i memory).runAll jobs).2.version = (i.version memory).1.toOption.getD []
    ∧ ((∀ memory' mode source,
        (i.execute memory' mode source).1 = (i.execute memory mode source).1) →
      ((start i memory).runAll jobs).1
        = jobs.map fun job => ((start i memory).run job.1 job.2).1) := by
  refine ⟨?_, output_runAll _ jobs, version_runAll _ jobs, fun h => ?_⟩
  · rw [reports_runAll, List.forall₂_map_right_iff]
    exact List.forall₂_same.2 fun e _ =>
      ⟨rfl, rfl, (OutputBuffer.text_printEach e).symm, e.exitCode_report_eq_some_iff⟩
  · rw [reports_runAll]
    show (i.executeAll (i.version memory).2 jobs).1.map Execution.report = _
    rw [executeAll_of_forall h, List.map_map]
    refine List.map_congr_left fun job _ => ?_
    rw [run_eq]
    exact congrArg _ (h _ job.1 job.2).symm

/-- prints the program on one channel and its end on the other, and cannot list instructions -/
def echo : Interpreter Unit where
  version _ := (.error .terminated, ())
  execute _ mode source :=
    ({ printed := [(.out, source), (.err, "end".toList)],
       result := if mode = .execute then .ok 0 else .error .terminated }, ())

/-- a program behind one that failed -/
theorem runAll_eq_executions_behind_failure :
    (∀ memory' mode source,
      (echo.execute memory' mode source).1 = (echo.execute () mode source).1)
    ∧ ((start echo ()).runAll [(.disassemble, ['a']), (.execute, ['b'])]).1
      = [⟨"a\nend\n".toList, none, {}⟩, ⟨"b\nend\n".toList, some 0, {}⟩]
    ∧ ((start echo ()).runAll [(.disassemble, ['a']), (.execute, ['b'])]).2.output.text
      = "b\nend\n".toList := by
  have hecho : ∀ memory' mode source,
      (echo.execute memory' mode source).1 = (echo.execute () mode source).1 := fun _ _ _ => rfl
  obtain ⟨-, houtput, -, hreports⟩ :=
    runAll_eq_executions echo () [(.disassemble, ['a']), (.execute, ['b'])]
  refine ⟨hecho, (hreports hecho).trans rfl, ?_⟩
  rw [houtput, hreports hecho]
  rfl

end Session

end Workbench
