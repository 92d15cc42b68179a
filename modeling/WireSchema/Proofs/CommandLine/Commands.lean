import WireSchema.CommandLine.Run
import WireSchema.Proofs.FileTree
import WireSchema.Proofs.Session.Frame
import WireSchema.Proofs.Session.Retained

/-!
# Checking and generating

The commands `check` and `generate` read the same inputs and find the same problems, so the one
succeeds where the other does, as long as the output can be written. A command that fails leaves all
files as they were, and one that succeeds changes no file but its output.
-/

namespace WireSchema

/-! ## Schemas and code of a session -/

/-- The checks accept what a session holds exactly if code can be generated from it. -/
theorem generate_isOk_iff_validate {s : Session} :
    (∃ code s', generate s = .ok code s') ↔ ∃ schema s', validate s = .ok schema s' := by
  simp only [generate_isOk_iff, validate_eq_ok_iff]
  refine ⟨fun h => ⟨⟨s.model, h⟩, rfl⟩, fun ⟨schema, hmodel⟩ => ?_⟩
  rw [← hmodel]
  exact schema.valid

/-- Where validating fails, generating fails with the same error and leaves the same session. -/
theorem generate_of_validate_error {s s' : Session} {e : CompileError}
    (h : validate s = .error e s') : generate s = .error e s' :=
  Run.bind_of_error h _

namespace CommandLine

/-! ## Runs of commands -/

/-- What a command leaves behind that prints nothing, from what becomes of its session. -/
def Outcome.silent {α : Type} : EStateM.Result CompileError Session α → Outcome
  | .ok _ s => ⟨0, "", "", s.files⟩
  | .error e s => ⟨1, "", s!"error: {e.message}\n", s.files⟩

/-- Reads inputs, then does something with them. -/
def withInputs {α : Type} (inputs : List String) (x : Action α) : Action α := do
  addPaths inputs
  x

variable {inputs : List String} {options : Options} {output : String} {files : FileTree}

theorem ofAction_of_ok {α : Type} {x : Action α} {s s' : Session} {a : α} (h : x s = .ok a s') :
    ofAction x s = .ok a s' := by
  rw [ofAction, h]

/-- A command fails with the error of the action it performs. -/
theorem ofAction_of_error {α : Type} {x : Action α} {s s' : Session} {e : CompileError}
    (h : x s = .error e s') : ofAction x s = .error (.compile e) s' := by
  rw [ofAction, h]

/-- A command that prints nothing and does a single thing with its session. -/
theorem run_of_perform {α : Type} {x : Action α} {command : Command}
    (h : command.perform = do
      let _ ← ofAction x
      return "") :
    Invocation.run ⟨command, inputs, options⟩ files =
      .silent (withInputs inputs x (.start options files)) := by
  rw [Invocation.run, Invocation.perform]
  cases hadd : addPaths inputs (.start options files) with
  | error e s =>
    rw [Run.bind_of_error (ofAction_of_error hadd), withInputs, Run.bind_of_error hadd]
    rfl
  | ok _ s =>
    rw [Run.bind_of_ok (ofAction_of_ok hadd), withInputs, Run.bind_of_ok hadd, h]
    cases hx : x s with
    | error e s' =>
      rw [Run.bind_of_error (ofAction_of_error hx)]
      rfl
    | ok a s' =>
      rw [Run.bind_of_ok (ofAction_of_ok hx)]
      rfl

/-- A check prints nothing of its own and ends as validating the inputs does. -/
theorem run_check : Invocation.run ⟨.check, inputs, options⟩ files =
    .silent (withInputs inputs validate (.start options files)) :=
  run_of_perform rfl

/-- Generating prints nothing of its own and ends as writing the code of the inputs does. -/
theorem run_generate : Invocation.run ⟨.generate output, inputs, options⟩ files =
    .silent (withInputs inputs (writeCode output) (.start options files)) :=
  run_of_perform rfl

/-! ## The two commands side by side -/

/-- The ways in which the two commands can end on the same inputs. -/
inductive Endings (inputs : List String) (options : Options) (output : String) (files : FileTree) :
    Outcome → Outcome → Prop
  /-- The inputs cannot be read, or have problems. Both say the same about them. -/
  | refused (e : CompileError) :
      Endings inputs options output files ⟨1, "", s!"error: {e.message}\n", files⟩
        ⟨1, "", s!"error: {e.message}\n", files⟩
  /-- The code that is generated cannot be written. -/
  | unwritable (e : FileError) (h : ∀ content, ¬∃ t, files.write output content = .ok t) :
      Endings inputs options output files ⟨0, "", "", files⟩
        ⟨1, "", s!"error: {(CompileError.output output e).message}\n", files⟩
  /-- The code is written. -/
  | written {code : String} {s : Session} {t : FileTree}
      (hcode : withInputs inputs generate (.start options files) = .ok code s)
      (hwrite : files.write output code.toUTF8 = .ok t) :
      Endings inputs options output files ⟨0, "", "", files⟩ ⟨0, "", "", t⟩

/-- Run on the same inputs, the two commands end in one of the listed ways. -/
theorem endings (inputs : List String) (options : Options) (output : String) (files : FileTree) :
    Endings inputs options output files (Invocation.run ⟨.check, inputs, options⟩ files)
      (Invocation.run ⟨.generate output, inputs, options⟩ files) := by
  rw [run_check, run_generate]
  -- Both commands add the inputs first and fail together.
  cases hadd : addPaths inputs (.start options files) with
  | error e s =>
    have hfiles : s.files = files := congrArg Prod.snd ((addPaths_keeps inputs).of_error hadd)
    rw [withInputs, withInputs, Run.bind_of_error hadd, Run.bind_of_error hadd, Outcome.silent,
      Outcome.silent, hfiles]
    exact .refused e
  | ok _ s =>
    have hfiles : s.files = files := congrArg Prod.snd ((addPaths_keeps inputs).of_ok hadd)
    rw [withInputs, withInputs, Run.bind_of_ok hadd, Run.bind_of_ok hadd]
    cases hvalidate : validate s with
    | error e s' =>
      have hfiles' : s'.files = s.files :=
        congrArg (fun c => c.2.2) (validate_keeps.of_error hvalidate)
      rw [writeCode_of_generate_error (generate_of_validate_error hvalidate), Outcome.silent,
        Outcome.silent, hfiles', hfiles]
      exact .refused e
    | ok schema s' =>
      have hfiles' : s'.files = s.files :=
        congrArg (fun c => c.2.2) (validate_keeps.of_ok hvalidate)
      -- A schema that passed its checks has code: only the file can still fail.
      obtain ⟨code, s'', hcode⟩ := generate_isOk_iff_validate.2 ⟨schema, s', hvalidate⟩
      have hfiles'' : s''.files = s.files := congrArg (fun c => c.2.2) (generate_keeps.of_ok hcode)
      rw [hfiles] at hfiles''
      rw [Outcome.silent, hfiles', hfiles]
      cases hwrite : files.write output code.toUTF8 with
      | error e =>
        rw [writeCode_of_write_error hcode (hfiles'' ▸ hwrite), Outcome.silent, hfiles'']
        -- Whether a path can be written does not depend on the content.
        refine .unwritable e fun content hok => ?_
        obtain ⟨t, ht⟩ := FileTree.exists_write_iff.2 (FileTree.exists_write_iff.1 hok)
        cases hwrite.symm.trans ht
      | ok t =>
        obtain ⟨_, hrun, rfl⟩ := writeCode_of_write hcode (hfiles'' ▸ hwrite)
        rw [hrun]
        exact .written ((Run.bind_of_ok hadd _).trans hcode) hwrite

/-- Checking and generating agree, and failures write nothing. Code can be generated in a session
    exactly if its checks succeed. Where the output can be written, `check` succeeds exactly if
    `generate` does. Where `check` fails, `generate` fails with the same words; neither says
    anything else or touches a file. Where `generate` succeeds, the only file that changes is the
    output, which then holds the code; where it fails, no file changes. How arguments are written
    down plays no part: all of this holds whatever reads them. -/
theorem generate_agrees_with_check {parse : List String → Option Invocation}
    {checkArgs generateArgs : List String}
    (hcheck : parse checkArgs = some ⟨.check, inputs, options⟩)
    (hgenerate : parse generateArgs = some ⟨.generate output, inputs, options⟩)
    (files : FileTree) :
    let outcome := fun args => runWith parse args files
    (∀ s : Session,
      (∃ code s', generate s = .ok code s') ↔ ∃ schema s', validate s = .ok schema s') ∧
    ((∃ content t, files.write output content = .ok t) →
      ((outcome checkArgs).exitCode = 0 ↔ (outcome generateArgs).exitCode = 0)) ∧
    ((outcome checkArgs).exitCode ≠ 0 →
      ∃ words, outcome checkArgs = ⟨1, "", words, files⟩ ∧
        outcome generateArgs = ⟨1, "", words, files⟩) ∧
    ((outcome generateArgs).exitCode = 0 →
      ∃ code s t, withInputs inputs generate (.start options files) = .ok code s ∧
        outcome generateArgs = ⟨0, "", "", t⟩ ∧ files.Replaces output code.toUTF8 t) ∧
    ((outcome generateArgs).exitCode ≠ 0 → (outcome generateArgs).files = files) := by
  intro outcome
  have hends := endings inputs options output files
  have hrun : outcome checkArgs = Invocation.run ⟨.check, inputs, options⟩ files := by
    change runWith parse checkArgs files = _
    rw [runWith, hcheck]
  have hrun' : outcome generateArgs =
      Invocation.run ⟨.generate output, inputs, options⟩ files := by
    change runWith parse generateArgs files = _
    rw [runWith, hgenerate]
  rw [← hrun, ← hrun'] at hends
  refine ⟨fun s => generate_isOk_iff_validate, ?_⟩
  -- From here on only the ways to end matter, and no longer how the commands were given.
  generalize outcome checkArgs = checked, outcome generateArgs = generated at hends
  have hone : (1 : UInt32) ≠ 0 := by decide
  cases hends with
  | refused e =>
    exact ⟨fun _ => Iff.rfl, fun _ => ⟨_, rfl, rfl⟩, fun hzero => absurd hzero hone, fun _ => rfl⟩
  | unwritable e h =>
    exact ⟨fun ⟨content, hok⟩ => absurd hok (h content), fun hne => absurd rfl hne,
      fun hzero => absurd hzero hone, fun _ => rfl⟩
  | written hcode hwrite =>
    exact ⟨fun _ => Iff.rfl, fun hne => absurd rfl hne,
      fun _ => ⟨_, _, _, hcode, rfl, FileTree.replaces_of_write hwrite⟩, fun hne => absurd rfl hne⟩

/-- A directory with a schema of one message. -/
def pingTree : FileTree where
  nodes := [(["home", "schema"], .directory),
    (["home", "schema", "ping.msg"], .file "message Ping = 2 [marker] \x7b \x7d".toUTF8)]
  workingDir := ["home"]

/-- Both commands succeed on a directory with one schema, and the file gets its code. -/
theorem generate_agrees_with_check_pingTree :
    Invocation.ofArgs? ["check"] = some ⟨.check, ["schema"], {}⟩ ∧
    Invocation.ofArgs? ["generate", "ping.rs"] = some ⟨.generate "ping.rs", ["schema"], {}⟩ ∧
    (run ["check"] pingTree).exitCode = 0 ∧
    ∃ code s t, withInputs ["schema"] generate (.start {} pingTree) = .ok code s ∧
      run ["generate", "ping.rs"] pingTree = ⟨0, "", "", t⟩ ∧
      pingTree.Replaces "ping.rs" code.toUTF8 t := by
  have hcheck : Invocation.ofArgs? ["check"] = some ⟨.check, ["schema"], {}⟩ := rfl
  have hgenerate : Invocation.ofArgs? ["generate", "ping.rs"] =
    some ⟨.generate "ping.rs", ["schema"], {}⟩ := rfl
  have hzero : (run ["check"] pingTree).exitCode = 0 := by decide +kernel
  have hwritable : pingTree.Writable "ping.rs" ["home", "ping.rs"] :=
    ⟨by decide +kernel, by decide +kernel, by decide +kernel⟩
  have hwrite : ∃ content t, pingTree.write "ping.rs" content = .ok t :=
    ⟨.empty, FileTree.exists_write_iff.2 ⟨_, hwritable⟩⟩
  obtain ⟨-, hiff, -, hcode, -⟩ := generate_agrees_with_check hcheck hgenerate pingTree
  exact ⟨hcheck, hgenerate, hzero, hcode ((hiff hwrite).1 hzero)⟩

end CommandLine

end WireSchema
