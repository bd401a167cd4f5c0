import BeanGauge.Pool
import BeanGauge.Proofs.Connector.Lifecycle
import BeanGauge.Proofs.Dict
/-!
# The slots of a pool

What the operations of a pool do to the connector of an endpoint, to the connectors of all others
and to the processes.
-/

namespace BeanGauge

namespace Pool

open Session (release)

variable {π : Type} {p p' : Pool} {e e' : Endpoint}

/-- The session that is held for an endpoint. -/
def session? (p : Pool) (e : Endpoint) : Option Session := (p.get? e).bind (·.session)

@[simp] theorem get?_set_self (c : Connector) : (p.set e c).get? e = some c :=
  Dict.get?_insert_self _ _ _

theorem get?_set_ne (h : e' ≠ e) (c : Connector) : (p.set e c).get? e' = p.get? e' :=
  Dict.get?_insert_ne _ _ h

@[simp] theorem set_set (c c' : Connector) : (p.set e c).set e c' = p.set e c' := by
  simp only [set, Dict.insert_insert]

theorem mem_endpoints_iff : e ∈ p.endpoints ↔ (p.get? e).isSome := Dict.mem_keys_iff

/-- Terminating takes the session of one connector and leaves everything else in its place. -/
theorem terminate_get? (b : Behaviour π) (p : Pool) (h : Host π) (e e' : Endpoint) :
    (terminate b (p, h) e).1.get? e' =
      (p.get? e').map fun c => if e' = e then { c with session := none } else c := by
  unfold terminate
  dsimp only
  cases hc : p.get? e with
  | none =>
    by_cases he : e' = e
    · rw [he, hc]
      rfl
    · simp [he]
  | some c =>
    dsimp only
    by_cases he : e' = e
    · rw [he, get?_set_self, hc, (Connector.terminate_spec b h c).1]
      simp
    · rw [get?_set_ne he]
      simp [he]

theorem ended_terminate (b : Behaviour π) (p : Pool) (h : Host π) (e : Endpoint) :
    (terminate b (p, h) e).2.ended = release (p.session? e) h.ended := by
  unfold terminate session?
  dsimp only
  cases hc : p.get? e with
  | none => rfl
  | some c => exact (Connector.terminate_spec b h c).2

/-- Ending the sessions of some endpoints leaves every connector in its slot. -/
theorem get?_foldl_terminate (b : Behaviour π) (es : List Endpoint) (p : Pool) (h : Host π)
    (e' : Endpoint) :
    (es.foldl (terminate b) (p, h)).1.get? e' =
      (p.get? e').map fun c => if e' ∈ es then { c with session := none } else c := by
  induction es generalizing p h with
  | nil => simp
  | cons e es ih =>
    rw [List.foldl_cons, ih, terminate_get?, Option.map_map]
    congr 1
    funext c
    by_cases he : e' = e
    · simp [he]
    · by_cases hes : e' ∈ es <;> simp [he, hes]

theorem nextId_terminate (b : Behaviour π) (p : Pool) (h : Host π) (e : Endpoint) :
    (terminate b (p, h) e).1.nextId = p.nextId := by
  unfold terminate
  split
  · rfl
  · rfl

theorem nextId_foldl_terminate (b : Behaviour π) (es : List Endpoint) (p : Pool) (h : Host π) :
    (es.foldl (terminate b) (p, h)).1.nextId = p.nextId := by
  induction es generalizing p h with
  | nil => rfl
  | cons e es ih => rw [List.foldl_cons, ih, nextId_terminate]

/-- Whether the connector of an endpoint is another one than before. -/
def Exchanged (e : Endpoint) (p p' : Pool) : Prop :=
  ∃ c ∈ p.get? e, ∃ c' ∈ p'.get? e, c'.id ≠ c.id

instance : Decidable (Exchanged e p p') :=
  inferInstanceAs (Decidable (∃ c ∈ p.get? e, ∃ c' ∈ p'.get? e, c'.id ≠ c.id))

theorem exchanged_iff {c c' : Connector} (hc : p.get? e = some c) (hc' : p'.get? e = some c') :
    Exchanged e p p' ↔ c'.id ≠ c.id := by
  constructor
  · rintro ⟨c₀, hc₀, c₀', hc₀', hne⟩
    rw [hc] at hc₀
    rw [hc'] at hc₀'
    cases hc₀
    cases hc₀'
    exact hne
  · intro hne
    exact ⟨c, hc, c', hc', hne⟩

/-- The connectors of a pool were all made by it, and run one launcher. -/
structure Sound (l : Launcher) (p : Pool) : Prop where
  numbered : ∀ e c, p.get? e = some c → c.id < p.nextId
  launcher : ∀ e c, p.get? e = some c → c.launcher = l

theorem Sound.empty (l : Launcher) : Pool.empty.Sound l where
  numbered _ _ hc := by cases hc
  launcher _ _ hc := by cases hc

theorem Sound.renew {l : Launcher} (hp : p.Sound l) (e : Endpoint)
    (dumpTimeout : UInt64) : (p.renew e l dumpTimeout).2.Sound l := by
  have hget : ∀ e' c, (p.renew e l dumpTimeout).2.get? e' = some c →
      c = .fresh p.nextId l dumpTimeout ∨ p.get? e' = some c := by
    intro e' c hc
    by_cases he : e' = e
    · rw [he] at hc
      exact .inl (Option.some.inj ((Dict.get?_insert_self _ _ _).symm.trans hc)).symm
    · exact .inr ((Dict.get?_insert_ne _ _ he).symm.trans hc)
  constructor
  · intro e' c hc
    rcases hget e' c hc with rfl | hold
    · exact Nat.lt_succ_self _
    · exact Nat.lt_succ_of_lt (hp.numbered e' c hold)
  · intro e' c hc
    rcases hget e' c hc with rfl | hold
    · rfl
    · exact hp.launcher e' c hold

theorem Sound.set {l : Launcher} {c c' : Connector} (hp : p.Sound l)
    (hslot : p.get? e = some c) (hc : c.Same c') : (p.set e c').Sound l := by
  have hget : ∀ e' c₂, (p.set e c').get? e' = some c₂ → c₂ = c' ∨ p.get? e' = some c₂ := by
    intro e' c₂ hc₂
    by_cases he : e' = e
    · rw [he, get?_set_self] at hc₂
      exact .inl (Option.some.inj hc₂).symm
    · rw [get?_set_ne he] at hc₂
      exact .inr hc₂
  constructor
  · intro e' c₂ hc₂
    rcases hget e' c₂ hc₂ with rfl | hold
    · rw [hc.id]
      exact hp.numbered e c hslot
    · exact hp.numbered e' c₂ hold
  · intro e' c₂ hc₂
    rcases hget e' c₂ hc₂ with rfl | hold
    · rw [hc.launcher]
      exact hp.launcher e c hslot
    · exact hp.launcher e' c₂ hold

end Pool

end BeanGauge
