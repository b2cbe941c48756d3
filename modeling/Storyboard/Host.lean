import Storyboard.Failure.Basic
import Storyboard.Job.Artifact
import Storyboard.Log

/-!
# Compositions on a host

A host turns the code of an artifact into a component. It is asked at the first
use; a component or a failure that tells its message is kept, and every later use gets
the same one without asking again. Nothing is kept of a failure that does not tell it.
-/

namespace Storyboard

/-- What the host passes to the code, in order. -/
def hostParameters : List String :=
  ["React", "Remotion", "Components", "Theme", "images", "audioUrl"]

/-- What is known of the component of an artifact. -/
inductive Build (γ : Type) where
  | pending
  | ready (component : γ)
  | failed (failure : Failure)

/-- An artifact with its component. -/
structure Composition (γ : Type) where
  artifact : Artifact
  build : Build γ

/-- A host, which may change with every component it is asked for: given code and
parameter names it builds a component, builds none, or fails. -/
abbrev Host (σ γ : Type) := String → List String → σ → Except Failure (Option γ) × σ

namespace Composition

variable {σ γ : Type}

/-- An artifact whose component nobody has asked for. -/
def ofArtifact (artifact : Artifact) : Composition γ := ⟨artifact, .pending⟩

/-- The host has built a component or failed to. -/
def isBuilt (composition : Composition γ) : Bool :=
  match composition.build with
  | .pending => false
  | _ => true

/-- The failure of a composition that a host could not build, with what it told. -/
def buildFailure (artifact : Artifact) (message : String) : Failure :=
  .unbuildable artifact.jobId message

/-- The report on a composition that a host could not build. -/
def buildLog (artifact : Artifact) (message : String) : Log :=
  [⟨.error, .host, s!"Composition build failed for job {artifact.jobId} " ++
    s!"v{artifact.version}: {message}"⟩]

/-- What a step of a composition leads to. -/
structure Step (σ γ α : Type) where
  result : Except Failure α
  composition : Composition γ
  host : σ
  log : Log

/-- The component, built at the first use. A host that builds none is asked again
at the next use, and so is one whose failure does not tell its message: another failure
takes its place before any is kept. -/
def component (host : Host σ γ) (composition : Composition γ) (state : σ) :
    Step σ γ (Option γ) :=
  match composition.build with
  | .ready component => ⟨.ok (some component), composition, state, []⟩
  | .failed failure => ⟨.error failure, composition, state, []⟩
  | .pending =>
    let artifact := composition.artifact
    match host artifact.code hostParameters state with
    | (.ok none, state) => ⟨.ok none, composition, state, []⟩
    | (.ok (some component), state) =>
      ⟨.ok (some component), ⟨artifact, .ready component⟩, state, []⟩
    | (.error failure, state) =>
      match failure.told with
      | .error other => ⟨.error other, composition, state, []⟩
      | .ok message =>
        let kept := buildFailure artifact message
        ⟨.error kept, ⟨artifact, .failed kept⟩, state, buildLog artifact message⟩

/-- Runs the component with arguments, one for each parameter. -/
def run (host : Host σ γ) (apply : γ → List Json → Except Failure Json)
    (composition : Composition γ) (arguments : List Json) (state : σ) : Step σ γ Json :=
  if arguments.length ≠ hostParameters.length then
    ⟨.error (.argumentCount hostParameters arguments.length), composition, state, []⟩
  else
    let step := composition.component host state
    let result := step.result.bind fun component =>
      match component with
      | some component => apply component arguments
      | none => .error .notRunnable
    ⟨result, step.composition, step.host, step.log⟩

end Composition

end Storyboard
