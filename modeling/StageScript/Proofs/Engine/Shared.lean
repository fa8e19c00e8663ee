import StageScript.Proofs.Engine.Served

/-!
# Programs that share a part

Evaluation asks a program for its directory alone, and a frame for its script. So two programs with
the same directory evaluate params and run loops in the same way, and two programs with the same
script run the same lines, whatever else they differ in.

A command that is performed asks for one thing more: the registry, when it makes a variable. So two
programs with the same script and directory perform a command in the same way, if they set in the
same way the names that the command may set (`perform_of_shared`).
-/

namespace StageScript

variable {program program' : Program} (settle : Settle)

section Directory

variable (h : program'.directory = program.directory) (ctx : Context)
include h

/-- Both sides unfold to one term once the directories are the same. -/
theorem evaluate_of_directory : evaluate program' = evaluate program := by
  obtain ⟨script, registry, directory, options⟩ := program
  obtain ⟨script', registry', directory', options'⟩ := program'
  cases h
  delta evaluate
  rfl

theorem boolean_of_directory (index : Nat) :
    ctx.boolean program' settle index = ctx.boolean program settle index := by
  simp only [Context.boolean, Context.value, evaluate_of_directory h]

theorem bindArguments_of_directory (scope : ScopeId) (list : List (String × Param)) :
    ctx.bindArguments program' settle scope list = ctx.bindArguments program settle scope list := by
  induction list with
  | nil => rfl
  | cons binding list ih =>
    simp only [Context.bindArguments, Context.bindArgument, evaluate_of_directory h, ih]

theorem whileLoop_of_directory (negated : Bool) (body : Command) (budget : Nat) :
    ctx.whileLoop program' settle negated body budget =
      ctx.whileLoop program settle negated body budget := by
  induction budget with
  | zero => rfl
  | succ budget ih => simp only [Context.whileLoop, boolean_of_directory settle h, ih]

theorem forLoop_of_directory (target : String) (body : Command) (budget : Nat) :
    ctx.forLoop program' settle target body budget =
      ctx.forLoop program settle target body budget := by
  induction budget with
  | zero => rfl
  | succ budget ih =>
    simp only [Context.forLoop, Context.value, boolean_of_directory settle h,
      evaluate_of_directory h, ih]

end Directory

/-! ### Performing -/

/-- **The names that a command may set in a tier**: the one in the slot for it, or any if the
command is one that a host adds. -/
def Context.MaySet (ctx : Context) (behaviour : Behaviour) (key : String) : Prop :=
  behaviour.isHost = true ∨ ∃ i, behaviour.nameSlot? = some i ∧ (ctx.name i).Returns key

/-- What a context answers to a command of a host depends on the script, the directory, and how
variables are set. -/
theorem carryOut_of_shared (hscript : program'.script = program.script)
    (hdirectory : program'.directory = program.directory) (ctx : Context) (signature : Signature)
    (hassign : ∀ tier key v id,
      ctx.assignFor program' tier key v id = ctx.assignFor program tier key v id)
    {α : Type} (p : HostProgram α) :
    ctx.carryOut program' settle signature p = ctx.carryOut program settle signature p := by
  have hassign : ∀ index tier key v id, (ctx.rebound index).assignFor program' tier key v id =
      (ctx.rebound index).assignFor program tier key v id := fun _ => hassign
  have hanswer : ∀ index service, (ctx.rebound index).answer program' settle signature service =
      (ctx.rebound index).answer program settle signature service := by
    intro index service
    cases service <;> simp only [Context.answer, Context.number, Context.text, Context.boolean,
      Context.collection, Context.value, Context.labelTarget, Context.labelBehind?, hscript,
      hdirectory, hassign, evaluate_of_directory hdirectory]
  induction p with
  | done | fail => rfl
  | ask index service next ih => simp only [Context.carryOut, hanswer, ih]

/-- **Programs with the same script and directory perform a command in the same way**, if they set
in the same way the names that it may set. -/
theorem perform_of_shared (hscript : program'.script = program.script)
    (hdirectory : program'.directory = program.directory) (budget : Nat) (ctx : Context)
    (type : CommandType)
    (hassign : ∀ key, ctx.MaySet type.behaviour key → ∀ tier v id,
      ctx.assignFor program' tier key v id = ctx.assignFor program tier key v id) :
    perform program' settle budget ctx type = perform program settle budget ctx type := by
  obtain ⟨signature, behaviour⟩ := type
  have heval := evaluate_of_directory hdirectory
  cases behaviour with
  | host action =>
    have hany : ∀ tier key v id,
        ctx.assignFor program' tier key v id = ctx.assignFor program tier key v id :=
      fun tier key => hassign key (.inl rfl) tier
    simp only [perform, Context.act,
      carryOut_of_shared settle hscript hdirectory ctx signature hany]
  | set tier =>
    refine Run.bind_congr fun key hkey => ?_
    have hkey := hassign key (.inr ⟨0, rfl, hkey⟩)
    simp only [Context.value, Context.assign, heval, hkey]
  | setHere =>
    refine Run.bind_congr fun key hkey => ?_
    have hkey := hassign key (.inr ⟨0, rfl, hkey⟩)
    simp only [Context.shareCell, Context.value, Context.assign, heval, hkey]
  | setFor tier =>
    simp only [perform, Context.setFor, Context.targetIds, Context.collection, Context.value, heval]
    refine Run.bind_congr fun ids _ => Run.bind_congr fun key hkey => ?_
    have hkey := hassign key (.inr ⟨1, rfl, hkey⟩)
    simp only [hkey]
  | _ =>
    simp only [perform, Context.goTo, Context.call, Context.labelTarget, Context.labelBehind?,
      Context.branch, Context.sendValue, Context.repeatWhile, Context.repeatFor, Context.counted,
      Context.countUpWith, Context.targetIds, Context.unsetFor, Context.number,
      Context.collection, Context.value, hscript, heval,
      boolean_of_directory settle hdirectory, bindArguments_of_directory settle hdirectory,
      whileLoop_of_directory settle hdirectory, forLoop_of_directory settle hdirectory]

/-! ### Frames -/

section Script

variable (h : program'.script = program.script)
include h

theorem runLines_of_script (frame : Frame) (remaining line : Nat) (last : Option Value) :
    frame.runLines program' settle remaining line last =
      frame.runLines program settle remaining line last := by
  induction remaining generalizing line last with
  | zero => rfl
  | succ remaining ih => simp only [Frame.runLines, h, ih]

end Script

end StageScript
