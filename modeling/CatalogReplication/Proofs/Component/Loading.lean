import CatalogReplication.Config.Context
import CatalogReplication.Proofs.Program

/-!
# What is asked for when a lock manager is loaded

Loading a component may open catalogs. If it is a lock manager that comes out, none was opened: the
most that was asked for is the name of the instance, so the world is left as it was
(`Component.isModest_load`).
-/

namespace CatalogReplication

namespace Component

variable {σ α : Type}

/-- Whether a component is a lock manager. -/
def isLockManager (c : Component) : Bool := (c.part?.bind Part.flavour?).isSome

/-- If it is a lock manager that is loaded, the world is left as it was. -/
def Load.IsModest (supply : Config.Supply σ) (id : Option String) (w : σ) (p : Load Component) :
    Prop :=
  p.Ensures (fun c w a w' => supply.serve id c w = (a, w')) (fun n _ => nomatch n)
    (fun _ _ => True) (fun r w' => ∀ m, r = .ok m → m.isLockManager = true → w' = w) w

/-- Nothing is asked for. -/
def Load.IsSilent (p : Load α) : Prop := p.CallsOnly fun _ => False

theorem isSilent_accept (names : List String) (args : Arguments) : (accept names args).IsSilent := by
  unfold accept
  split <;> trivial

theorem isSilent_classOf (v : Value) : (classOf v).IsSilent := by
  unfold classOf
  split
  · split <;> trivial
  · trivial

theorem isSilent_argumentsOf (fields : Assoc String Value) : (argumentsOf fields).IsSilent := by
  unfold argumentsOf
  split
  · trivial
  · split <;> trivial

section

variable {supply : Config.Supply σ} {id : Option String} {w : σ}

theorem isModest_done (m : Component) : Load.IsModest supply id w (.done m) :=
  fun _ _ _ => rfl

theorem isModest_fail (f : Failure) : Load.IsModest supply id w (.fail f) :=
  nofun

theorem Load.IsSilent.isModest_bind {p : Load α} (hp : p.IsSilent) {f : α → Load Component}
    (h : ∀ a, Load.IsModest supply id w (f a)) : Load.IsModest supply id w (p.bind f) := by
  cases p with
  | done a => exact h a
  | fail e => exact isModest_fail e
  | note n rest => exact n.elim
  | call c next => exact hp.1.elim

/-- Whatever is asked for, if it isn't a lock manager that is made with it. -/
theorem isModest_bind (p : Load α) {f : α → Component} (h : ∀ a, (f a).isLockManager = false) :
    Load.IsModest supply id w (p.bind fun a => .done (f a)) := by
  refine (Program.ensures_trivial p w).bind (fun a w' _ m hm hmanager => ?_) nofun
  cases hm
  rw [h a] at hmanager
  cases hmanager

theorem isModest_loadServiceLocks (args : Arguments) :
    Load.IsModest supply id w (loadServiceLocks args) := by
  refine Program.ensures_perform_bind trivial (fun a w' hanswer _ _ _ => ?_) nofun
  have hserve : (supply.serve id .instanceId w).2 = w := by
    cases id <;> rfl
  exact (congrArg Prod.snd hanswer).symm.trans hserve

theorem isModest_construct (className : String) (args : Arguments) (hooks : List (Load Component)) :
    Load.IsModest supply id w (construct className args hooks) := by
  have hplain : ∀ m names, Load.IsModest supply id w ((accept names args).bind fun _ => .done m) :=
    fun m names => (isSilent_accept names args).isModest_bind fun _ => isModest_done m
  unfold construct
  split
  · exact (isSilent_accept _ _).isModest_bind fun _ =>
      isModest_bind (Program.perform .openKeyed) fun _ => rfl
  · unfold loadRelational
    split
    · exact isModest_fail _
    · exact (isSilent_accept _ _).isModest_bind fun _ =>
        Load.IsSilent.isModest_bind (Program.callsOnly_ofExcept _) fun x =>
          isModest_bind (Program.perform (.openRelational x.1)) fun _ => rfl
  · exact Load.IsSilent.isModest_bind (Program.callsOnly_ofExcept _) fun _ => isModest_done _
  · exact (isSilent_accept _ _).isModest_bind fun _ =>
      Load.IsSilent.isModest_bind (Program.callsOnly_ofExcept _) fun _ => isModest_done _
  · exact hplain _ _
  · exact hplain _ _
  · exact hplain _ _
  · exact hplain _ _
  · exact isModest_loadServiceLocks args
  · exact hplain _ _
  · exact hplain _ _
  · exact hplain _ _
  · unfold loadSeveral
    dsimp only
    split
    · exact isModest_done _
    · exact isModest_bind _ fun _ => rfl
    · exact isModest_fail _
  · exact isModest_fail _

theorem isModest_load (v : Value) : Load.IsModest supply id w (load v) := by
  cases v with
  | map fields =>
    unfold load loadFields
    split
    · exact isModest_fail _
    · refine (isSilent_classOf _).isModest_bind fun className => ?_
      refine (isSilent_argumentsOf fields).isModest_bind fun args => ?_
      cases className with
      | some name => exact isModest_construct name args _
      | none => exact isModest_fail _
  | _ => exact isModest_fail _

end

end Component

end CatalogReplication
