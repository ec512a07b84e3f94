import Floorplan.Proofs.Building.WellFormed
import Floorplan.Session.Basic

set_option autoImplicit false

/-! # Runs of a session

Whatever is done with a session is a sequence of operations, each with a clock of its own: nothing is
assumed about how the clocks of different operations go together. A run ends early in a fault, or when
there are more floors in a building than a word can count, because no list of that length can be held
in memory. -/

namespace Floorplan

/-- What can be done with a session. -/
inductive Operation where
  | start (text : String)
  | finish
  | send (text : String)
  | setMap (kind : ComponentKind) (floor component : String) (map : Option String)
  | setFixture (floor restroom : String) (fixture : Option String)
  | uploadMap (disk : Disk) (kind : ComponentKind) (floor component path : String)
  | uploadFixture (disk : Disk) (floor restroom path : String)
  | edit (e : Edit)
  | update (b : Building)
  | switchTo (id : String)
  | clear

/-- Does the operation put a building of any shape in the place of another? -/
def Operation.replaces : Operation → Bool
  | update _ => true
  | _ => false

/-- Is the operation a line of text that is taken up or answered? -/
def Operation.isChat : Operation → Bool
  | start _ | finish | send _ => true
  | _ => false

/-- What an operation gives back. -/
inductive Answer where
  | done
  /-- Was the line taken up, or the building changed? -/
  | flag (value : Bool)
  /-- The reply, if a line was answered. -/
  | reply (text : Option String)
  deriving DecidableEq, Repr

/-- Why a run ends early. -/
inductive Stop where
  | fault (f : Fault)
  | tooManyFloors
  deriving DecidableEq, Repr

namespace Session

variable {σ : Type} [BlobStore σ]

/-- Carries out an operation. -/
def perform (s : Session σ) (op : Operation) (clock : Clock) : Except Fault (Answer × Session σ) :=
  match op with
  | .start text => .ok ((s.start text clock).map .flag id)
  | .finish => (s.finish clock).map (·.map .reply id)
  | .send text => (s.send text clock).map (·.map .reply id)
  | .setMap kind floor component map => .ok (.done, s.setMap kind floor component map)
  | .setFixture floor restroom fixture => .ok (.done, s.setFixture floor restroom fixture)
  | .uploadMap disk kind floor component path =>
    .ok (.done, s.uploadMap disk kind floor component path)
  | .uploadFixture disk floor restroom path => .ok (.done, s.uploadFixture disk floor restroom path)
  | .edit e => .ok ((s.editStructure (e.applyTo · clock ·) clock).map .flag id)
  | .update b => .ok (.done, s.updateBuilding b clock)
  | .switchTo id => .ok (.done, s.switchTo id)
  | .clear => .ok (.done, s.clear clock)

/-- One step of a run. -/
def step (s : Session σ) (op : Operation) (clock : Clock) : Except Stop (Answer × Session σ) :=
  match s.perform op clock with
  | .error f => .error (.fault f)
  | .ok (answer, s) => if s.collection.Fits then .ok (answer, s) else .error .tooManyFloors

/-- The answers of a run, and the session after it. -/
def run (s : Session σ) : List (Operation × Clock) → Except Stop (List Answer × Session σ)
  | [] => .ok ([], s)
  | (op, clock) :: steps =>
    match s.step op clock with
    | .error stop => .error stop
    | .ok (answer, s) => (s.run steps).map (·.map (answer :: ·) id)

/-- A session that starts on an empty store has no buildings. -/
theorem collection_restore {store : σ} (hstore : BlobStore.get store buildingsKey = .ok none)
    (clock : Clock) : (restore store clock).collection = .empty := by
  simp only [restore, Saved.loadOr, hstore]

variable {s s' : Session σ}

/-- A step that is made is an operation that is carried out, after which all floors can be counted. -/
theorem perform_of_step {op : Operation} {clock : Clock} {answer : Answer}
    (h : s.step op clock = .ok (answer, s')) :
    s.perform op clock = .ok (answer, s') ∧ s'.collection.Fits := by
  simp only [step] at h
  split at h
  · cases h
  · split at h <;> cases h
    exact ⟨‹_›, ‹_›⟩

/-! ## What holds in the end -/

/-- The outcome is a session with a property, or an early end for a reason. -/
def Ends {α : Type} (p : Session σ → Prop) (reason : Stop → Prop) :
    Except Stop (α × Session σ) → Prop
  | .ok (_, s) => p s
  | .error stop => reason stop

variable {p q : Session σ → Prop} {reason : Stop → Prop}

omit [BlobStore σ] in
theorem Ends.imp {α : Type} {r : Except Stop (α × Session σ)} (hpq : ∀ s, p s → q s)
    (h : Ends p reason r) : Ends q reason r := by
  rcases r with _ | ⟨_, s⟩
  · exact h
  · exact hpq s h

/-- What each step keeps holds in the end. -/
theorem run_ends {steps : List (Operation × Clock)}
    (hstep : ∀ x ∈ steps, ∀ s, p s → Ends p reason (s.step x.1 x.2)) (h : p s) :
    Ends p reason (s.run steps) := by
  induction steps generalizing s with
  | nil => exact h
  | cons x steps ih =>
    obtain ⟨hx, hsteps⟩ := List.forall_mem_cons.1 hstep
    have hfirst := hx s h
    simp only [run]
    split
    · rename_i stop hstop
      rw [hstop] at hfirst
      exact hfirst
    · rename_i answer next hnext
      rw [hnext] at hfirst
      have hrest := ih hsteps hfirst
      cases hrun : next.run steps <;> (rw [hrun] at hrest; exact hrest)

end Session

end Floorplan
