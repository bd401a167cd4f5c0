import BeanGauge.Proofs.Connector.Lifecycle
/-!
# Who owns a process

Whatever is asked of a connector, a process that is still open afterwards is that of its session, or
was open before and was not that of its session then. So a connector leaves no process behind.
-/

namespace BeanGauge

namespace Session

/-- How a session for an endpoint gives way to another one, with the tables of processes before and
after. -/
structure Passes (e : Endpoint) (s : Option Session) (ended : List Bool) (s' : Option Session)
    (ended' : List Bool) : Prop where
  grows : ended.length ≤ ended'.length
  session : ∀ x, s' = some x →
    s = some x ∨ (x.endpoint = e ∧ ended.length ≤ x.pid ∧ x.pid < ended'.length)
  owned : ∀ pid, ended'[pid]? = some false →
    (∃ x, s' = some x ∧ x.pid = pid) ∨ (ended[pid]? = some false ∧ ∀ x, s = some x → x.pid ≠ pid)

variable {e : Endpoint} {s s' s'' : Option Session} {ended ended' ended'' : List Bool}

theorem Passes.refl (e : Endpoint) (s : Option Session) (ended : List Bool) :
    Passes e s ended s ended where
  grows := Nat.le_refl _
  session _ hx := .inl hx
  owned pid hopen := by
    by_cases hown : ∃ x, s = some x ∧ x.pid = pid
    · exact .inl hown
    · refine .inr ⟨hopen, ?_⟩
      intro x hx hpid
      exact hown ⟨x, hx, hpid⟩

theorem Passes.trans (h : Passes e s ended s' ended') (h' : Passes e s' ended' s'' ended'') :
    Passes e s ended s'' ended'' where
  grows := Nat.le_trans h.grows h'.grows
  session x hx := by
    rcases h'.session x hx with hx | ⟨he, hlow, hhigh⟩
    · rcases h.session x hx with hx | ⟨he, hlow, hhigh⟩
      · exact .inl hx
      · exact .inr ⟨he, hlow, Nat.lt_of_lt_of_le hhigh h'.grows⟩
    · exact .inr ⟨he, Nat.le_trans h.grows hlow, hhigh⟩
  owned pid hopen := by
    -- what the first step hands over, the second one holds or ends
    rcases h'.owned pid hopen with hown | ⟨hopen, hfree⟩
    · exact .inl hown
    · rcases h.owned pid hopen with ⟨x, hx, hpid⟩ | hold
      · exact absurd hpid (hfree x hx)
      · exact .inr hold

/-- What is open when a session was released was open before, and not that of the session. -/
theorem open_release {pid : Nat} (hopen : (release s ended)[pid]? = some false) :
    ended[pid]? = some false ∧ ∀ x, s = some x → x.pid ≠ pid := by
  cases s with
  | none => exact ⟨hopen, fun x hx => by cases hx⟩
  | some x =>
    rw [release, List.getElem?_set] at hopen
    split at hopen
    · split at hopen
      · cases hopen
      · cases hopen
    · rename_i hne
      refine ⟨hopen, ?_⟩
      rintro y ⟨rfl⟩
      exact hne

theorem Passes.drop (e : Endpoint) (s : Option Session) (ended : List Bool) :
    Passes e s ended none (release s ended) where
  grows := Nat.le_of_eq (length_release s ended).symm
  session _ hx := by cases hx
  owned _ hopen := .inr (open_release hopen)

theorem Passes.fail (e : Endpoint) (s : Option Session) (ended : List Bool) :
    Passes e s ended none (release s ended ++ [true]) where
  grows := by
    rw [List.length_append, length_release]
    exact Nat.le_add_right _ _
  session _ hx := by cases hx
  owned pid hopen := by
    rw [List.getElem?_append] at hopen
    split at hopen
    · exact .inr (open_release hopen)
    · obtain ⟨_, hlast⟩ := List.getElem?_eq_some_iff.1 hopen
      simp at hlast

theorem Passes.open (e : Endpoint) (s : Option Session) (ended : List Bool) :
    Passes e s ended (some ⟨ended.length, e⟩) (release s ended ++ [false]) where
  grows := by
    rw [List.length_append, length_release]
    exact Nat.le_add_right _ _
  session x hx := by
    cases hx
    refine .inr ⟨rfl, Nat.le_refl _, ?_⟩
    rw [List.length_append, length_release]
    exact Nat.lt_succ_self _
  owned pid hopen := by
    rw [List.getElem?_append] at hopen
    split at hopen
    · exact .inr (open_release hopen)
    · rename_i hnew
      obtain ⟨hlast, -⟩ := List.getElem?_eq_some_iff.1 hopen
      rw [length_release] at hnew hlast
      rw [List.length_singleton] at hlast
      exact .inl ⟨_, rfl, by dsimp only; omega⟩

end Session

namespace Connector

open Session (Passes)

variable {π : Type}

/-- An attempt to connect ends the process of the old session, and hands over one that it started or
ends that too. -/
theorem connect_passes (b : Behaviour π) (h : Host π) (c : Connector) (o : ConnectOptions) :
    Passes o.endpoint c.session h.ended (c.connect b h o).2.1.session
      (c.connect b h o).2.2.ended := by
  have hcases := connect_cases b h c o
  generalize c.connect b h o = result at hcases
  cases hcases with
  | unspawned reason h' hstart htable =>
    rw [htable]
    exact .drop _ _ _
  | unanswered p why h' hstart htable =>
    rw [htable]
    exact .fail _ _ _
  | opened p h' hstart htable =>
    rw [htable, ← Host.length_ended]
    exact .open _ _ _

/-- A dump keeps the session or ends its process. -/
theorem dump_passes (b : Behaviour π) (h : Host π) (c : Connector) (e : Endpoint) :
    Passes e c.session h.ended (c.dump b h).2.1.session (c.dump b h).2.2.ended := by
  have hcases := dump_cases b h c
  generalize c.dump b h = result at hcases
  cases hcases with
  | unasked hs => exact .refl _ _ _
  | unanswered error h' hfatal htable =>
    rw [htable]
    exact .drop _ _ _
  | answered s output h' hs htable =>
    rw [htable]
    exact .refl _ _ _

end Connector

end BeanGauge
