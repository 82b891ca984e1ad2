import RecordQuery.Proofs.Composition
import RecordQuery.Proofs.Pages.Delivery

namespace RecordQuery

variable {τ σ α β : Type} {store : Store τ σ}

/-- A run comes to the same in every session. -/
def Steady (x : StateM (Session τ σ) α) : Prop := ∀ s s', (x.run s).1 = (x.run s').1

namespace Steady

/-- Two runs of one that is steady differ in the session after them at most. -/
theorem exists_answer {x : StateM (Session τ σ) α} (h : Steady x) (s s' : Session τ σ) :
    ∃ a s₁ s₁', x.run s = (a, s₁) ∧ x.run s' = (a, s₁') :=
  ⟨(x.run s).1, (x.run s).2, (x.run s').2, rfl, Prod.ext (h s s').symm rfl⟩

/-- A step goes on as it does from any session, if it goes on steadily after what it comes to. -/
theorem bind {x : StateM (Session τ σ) α} {f : α → StateM (Session τ σ) β} (hx : Steady x)
    (hf : ∀ s, Steady (f (x.run s).1)) : Steady (x >>= f) := by
  intro s s'
  obtain ⟨a, s₁, s₁', hs, hs'⟩ := hx.exists_answer s s'
  have hnext := hf s s₁ s₁'
  rw [hs] at hnext
  rw [StateT.run_bind, StateT.run_bind, hs, hs']
  exact hnext

end Steady

/-- Against a store that always answers alike every run is steady. -/
theorem Store.Settled.steady (h : store.Settled) : Inherited store Steady where
  pure _ _ _ := rfl
  bind := Steady.bind
  report _ _ _ := rfl
  schema object s s' := h.described object s.schemas s'.schemas
  send endpoint text s s' := h.query endpoint text s.transport s'.transport
  request url s s' := h.request "GET" url s.transport s'.transport

end RecordQuery
