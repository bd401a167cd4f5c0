import BeanGauge.Pool.Shared
import BeanGauge.Proofs.Pool
import BeanGauge.Proofs.Text.Order
import Mathlib.Data.List.Dedup
/-!
# Handles to the slots of a pool

A shared pool is a map from endpoints to slots that only grows. The handle to a slot is made with
the slot and stays the one handle to it, so all who have it find the connector that was last put
there through any copy of it. A slot is made by asking for one, and by nothing else.
-/

namespace BeanGauge

open Text (encode encode_lt_iff)

/-- The order of endpoints: by the bytes of the host, then by the port. -/
def Endpoint.Before (e e' : Endpoint) : Prop :=
  encode e.host < encode e'.host ∨ e.host = e'.host ∧ e.port < e'.port

theorem Endpoint.before_iff {e e' : Endpoint} : e.Before e' ↔ e < e' := by
  rw [Before, encode_lt_iff]
  exact Iff.rfl

namespace SharedPool

variable {μ π : Type} {p : SharedPool} {e e' : Endpoint} {handle handle' : Handle}
  {c : Connector}

theorem exists_read (h : p.get? e = some handle) : ∃ c, p.read handle = some c :=
  ⟨_, List.getElem?_eq_getElem (p.leads e handle h)⟩

/-! ## One operation -/

theorem get?_grow_self : (p.grow e c).2.get? e = some (p.grow e c).1 := Dict.get?_insert_self _ _ _

theorem get?_grow_ne (h : e' ≠ e) : (p.grow e c).2.get? e' = p.get? e' := Dict.get?_insert_ne _ _ h

theorem read_grow_self : (p.grow e c).2.read (p.grow e c).1 = some c := List.getElem?_concat_length

/-- The handle to a new slot leads to nothing that was there before. -/
theorem read_grow_fresh : p.read (p.grow e c).1 = none := List.getElem?_eq_none (Nat.le_refl _)

theorem ne_grow {c' : Connector} (h : p.read handle = some c') : handle ≠ (p.grow e c).1 := by
  intro heq
  rw [heq, read_grow_fresh] at h
  cases h

theorem read_grow_ne (h : handle ≠ (p.grow e c).1) :
    (p.grow e c).2.read handle = p.read handle := by
  obtain ⟨cell⟩ := handle
  have hcell : cell ≠ p.cells.length := fun heq => h (congrArg Handle.mk heq)
  show (p.cells ++ [c])[cell]? = p.cells[cell]?
  rcases Nat.lt_or_gt_of_ne hcell with hlt | hgt
  · exact List.getElem?_append_left hlt
  · rw [List.getElem?_eq_none (Nat.le_of_lt hgt), List.getElem?_eq_none]
    rw [List.length_append, List.length_singleton]
    exact hgt

theorem slot_of_some (h : p.get? e = some handle) (make : μ → Connector × μ) (m : μ) :
    p.slot e make m = (handle, p, m) := by
  rw [slot, h]

theorem slot_of_none (h : p.get? e = none) (make : μ → Connector × μ) (m : μ) :
    p.slot e make m = ((p.grow e (make m).1).1, (p.grow e (make m).1).2, (make m).2) := by
  rw [slot, h]

theorem read_put : (p.put handle c).read handle' =
    (p.read handle').map fun old => if handle' = handle then c else old := by
  obtain ⟨cell⟩ := handle
  obtain ⟨cell'⟩ := handle'
  show (p.cells.set cell c)[cell']? = p.cells[cell']?.map _
  rw [List.getElem?_set]
  by_cases h : cell = cell'
  · subst h
    by_cases hlt : cell < p.cells.length
    · simp [hlt]
    · simp [hlt]
  · simp [h, Ne.symm h]

theorem slots_terminate (b : Behaviour π) (p : SharedPool) (h : Host π) (handle : Handle) :
    (terminate b (p, h) handle).1.slots = p.slots := by
  rw [terminate]
  split <;> rfl

theorem read_terminate (b : Behaviour π) (p : SharedPool) (h : Host π) (handle handle' : Handle) :
    (terminate b (p, h) handle).1.read handle' =
      (p.read handle').map fun c => if handle' = handle then { c with session := none } else c := by
  rw [terminate]
  cases hc : p.read handle with
  | none =>
    by_cases heq : handle' = handle
    · rw [heq, hc]
      rfl
    · simp [heq]
  | some c =>
    dsimp only
    rw [read_put, (Connector.terminate_spec b h c).1]
    by_cases heq : handle' = handle
    · rw [heq, hc]
      simp
    · simp [heq]

theorem slots_foldl_terminate (b : Behaviour π) (handles : List Handle) (p : SharedPool)
    (h : Host π) : (handles.foldl (terminate b) (p, h)).1.slots = p.slots := by
  induction handles generalizing p h with
  | nil => rfl
  | cons handle handles ih => rw [List.foldl_cons, ih, slots_terminate]

/-- Terminating any of the handles, in any order, takes their sessions. -/
theorem read_foldl_terminate (b : Behaviour π) (handles : List Handle) (p : SharedPool)
    (h : Host π) (handle' : Handle) :
    (handles.foldl (terminate b) (p, h)).1.read handle' =
      (p.read handle').map fun c =>
        if handle' ∈ handles then { c with session := none } else c := by
  induction handles generalizing p h with
  | nil => simp
  | cons handle handles ih =>
    rw [List.foldl_cons, ih, read_terminate, Option.map_map]
    congr 1
    funext c
    by_cases heq : handle' = handle
    · simp [heq]
    · by_cases hmem : handle' ∈ handles <;> simp [heq, hmem]

/-! ## Slots and cells -/

/-- Whether every cell is the slot of one endpoint. -/
structure Sound (p : SharedPool) : Prop where
  apart : ∀ e e' handle, p.get? e = some handle → p.get? e' = some handle → e = e'
  owned : ∀ handle, (p.read handle).isSome → ∃ e, p.get? e = some handle

theorem sound_empty : (∅ : SharedPool).Sound where
  apart _ _ _ h := by cases h
  owned _ h := by cases h

theorem Sound.grow (hp : p.Sound) (hnew : p.get? e = none) (c : Connector) :
    (p.grow e c).2.Sound := by
  have hfresh : ∀ e', p.get? e' ≠ some (p.grow e c).1 := by
    intro e' he'
    obtain ⟨c', hc'⟩ := exists_read he'
    exact ne_grow hc' rfl
  constructor
  · intro e₁ e₂ handle h₁ h₂
    by_cases he₁ : e₁ = e <;> by_cases he₂ : e₂ = e
    · rw [he₁, he₂]
    · rw [he₁, get?_grow_self] at h₁
      rw [get?_grow_ne he₂, ← h₁] at h₂
      exact absurd h₂ (hfresh e₂)
    · rw [he₂, get?_grow_self] at h₂
      rw [get?_grow_ne he₁, ← h₂] at h₁
      exact absurd h₁ (hfresh e₁)
    · rw [get?_grow_ne he₁] at h₁
      rw [get?_grow_ne he₂] at h₂
      exact hp.apart e₁ e₂ handle h₁ h₂
  · intro handle hread
    by_cases hhandle : handle = (p.grow e c).1
    · exact ⟨e, hhandle ▸ get?_grow_self⟩
    · rw [read_grow_ne hhandle] at hread
      obtain ⟨e', he'⟩ := hp.owned handle hread
      have hne : e' ≠ e := by
        intro heq
        rw [heq, hnew] at he'
        cases he'
      exact ⟨e', (get?_grow_ne hne).trans he'⟩

/-- Exchanging connectors in their cells leaves all slots as they are. -/
theorem Sound.congr {p' : SharedPool} (hp : p.Sound) (hslots : p'.slots = p.slots)
    {f : Handle → Connector → Connector}
    (hread : ∀ handle, p'.read handle = (p.read handle).map (f handle)) : p'.Sound := by
  have hget : ∀ e, p'.get? e = p.get? e := fun e => congrArg (Dict.get? · e) hslots
  constructor
  · intro e e' handle h h'
    rw [hget] at h h'
    exact hp.apart e e' handle h h'
  · intro handle h
    rw [hread, Option.isSome_map] at h
    obtain ⟨e, he⟩ := hp.owned handle h
    exact ⟨e, (hget e).trans he⟩

theorem slots_terminateAll (b : Behaviour π) (visit : Visit) (p : SharedPool) (h : Host π) :
    (terminateAll b visit (p, h)).1.slots = p.slots := slots_foldl_terminate b _ p h

/-- Every connector stays in its cell, and none keeps its session. -/
theorem Sound.read_terminateAll (hp : p.Sound) (b : Behaviour π) (visit : Visit) (h : Host π)
    (handle : Handle) :
    (terminateAll b visit (p, h)).1.read handle =
      (p.read handle).map fun c => { c with session := none } := by
  rw [terminateAll, read_foldl_terminate]
  cases hc : p.read handle with
  | none => rfl
  | some c =>
    obtain ⟨e, he⟩ := hp.owned handle (Option.isSome_of_eq_some hc)
    have hvalue : handle ∈ p.slots.values :=
      List.mem_map.2 ⟨(e, handle), Dict.get?_eq_some_iff.1 he, rfl⟩
    have hvisited : handle ∈ visit.order p.slots.values := (visit.perm _).mem_iff.2 hvalue
    simp [hvisited]

theorem length_endpoints (p : SharedPool) : p.endpoints.length = p.size := List.length_map _

theorem mem_endpoints_iff : e ∈ p.endpoints ↔ (p.get? e).isSome := Dict.mem_keys_iff

theorem endpoints_pairwise (p : SharedPool) : p.endpoints.Pairwise Endpoint.Before := by
  rw [endpoints, Dict.keys, List.pairwise_map]
  exact p.slots.sorted.imp Endpoint.before_iff.2

end SharedPool

/-! ## Calls -/

/-- The endpoint that a call asks a slot for. -/
def PoolCall.asks? {μ π : Type} : PoolCall μ π → Option Endpoint
  | slot e _ => some e
  | _ => none

/-- What a call makes of the connector that is found through a handle. -/
def PoolCall.shows {μ π : Type} (handle : Handle) (c : Connector) : PoolCall μ π → Connector
  | replace handle' c' => if handle = handle' then c' else c
  | terminateAll _ _ => { c with session := none }
  | _ => c

theorem PoolCall.shows_of_asks? {μ π : Type} {call : PoolCall μ π} {e : Endpoint}
    (h : call.asks? = some e) (handle : Handle) (c : Connector) : call.shows handle c = c := by
  cases call with
  | slot => rfl
  | _ => cases h

namespace PoolUse

open SharedPool

variable {μ π : Type} {s : PoolUse μ π} {e : Endpoint} {handle : Handle} {c : Connector}

/-- The endpoints that slots were asked for. -/
def asked (calls : List (PoolCall μ π)) : List Endpoint := calls.filterMap PoolCall.asks?

/-- What some calls make of the connector that is found through a handle: the one that was last put
there counts, without its session if all sessions were ended since. -/
def shown (calls : List (PoolCall μ π)) (handle : Handle) (c : Connector) : Connector :=
  calls.foldl (PoolCall.shows handle) c

/-- What a call can do to a pool: it makes a slot that is asked for and is not there, or it
exchanges connectors in their cells. -/
inductive Does (p : SharedPool) (call : PoolCall μ π) : SharedPool → Prop
  | makes (e : Endpoint) (c : Connector) (asks : call.asks? = some e) (new : p.get? e = none) :
      Does p call (p.grow e c).2
  | exchanges (p' : SharedPool) (there : ∀ e, call.asks? = some e → e ∈ p.endpoints)
      (slots : p'.slots = p.slots)
      (read : ∀ handle, p'.read handle = (p.read handle).map (call.shows handle)) :
      Does p call p'

/-- Each call does one of the things that `Does` lists. -/
theorem step_does (hs : s.pool.Sound) (call : PoolCall μ π) :
    Does s.pool call (s.step call).pool := by
  cases call with
  | slot e make =>
    rw [step]
    cases he : s.pool.get? e with
    | none =>
      rw [slot_of_none he]
      exact .makes e _ rfl he
    | some handle =>
      rw [slot_of_some he]
      refine .exchanges s.pool (fun e' he' => ?_) rfl fun handle => Option.map_id'.symm
      cases he'
      rw [mem_endpoints_iff, he]
      rfl
  | get e => exact .exchanges s.pool (fun _ h => nomatch h) rfl fun _ => Option.map_id'.symm
  | turn host => exact .exchanges s.pool (fun _ h => nomatch h) rfl fun _ => Option.map_id'.symm
  | replace handle c =>
    rw [step]
    cases hold : s.pool.read handle with
    | none =>
      refine .exchanges s.pool (fun _ h => nomatch h) rfl fun handle' => ?_
      by_cases heq : handle' = handle
      · rw [heq, hold]
        rfl
      · simp [PoolCall.shows, heq]
    | some old => exact .exchanges _ (fun _ h => nomatch h) rfl fun handle' => read_put
  | terminateAll b visit =>
    exact .exchanges _ (fun _ h => nomatch h) (slots_terminateAll b visit _ _)
      (hs.read_terminateAll b visit _)

theorem sound_step (hs : s.pool.Sound) (call : PoolCall μ π) : (s.step call).pool.Sound := by
  have hdoes := step_does hs call
  generalize (s.step call).pool = p' at hdoes ⊢
  cases hdoes with
  | makes e c asks new => exact hs.grow new c
  | exchanges _ there slots read => exact hs.congr slots read

/-- A slot stays, with its handle. -/
theorem get?_step (hs : s.pool.Sound) (call : PoolCall μ π) (h : s.pool.get? e = some handle) :
    (s.step call).pool.get? e = some handle := by
  have hdoes := step_does hs call
  generalize (s.step call).pool = p' at hdoes ⊢
  cases hdoes with
  | makes e' c asks new =>
    have hne : e ≠ e' := by
      intro heq
      rw [heq, new] at h
      cases h
    rw [get?_grow_ne hne, h]
  | exchanges _ there slots read => exact (congrArg (Dict.get? · e) slots).trans h

/-- A connector is exchanged only in its own cell. -/
theorem read_step (hs : s.pool.Sound) (call : PoolCall μ π) (h : s.pool.read handle = some c) :
    (s.step call).pool.read handle = some (call.shows handle c) := by
  have hdoes := step_does hs call
  generalize (s.step call).pool = p' at hdoes ⊢
  cases hdoes with
  | makes e' c' asks new =>
    rw [read_grow_ne (ne_grow h), h, PoolCall.shows_of_asks? asks]
  | exchanges _ there slots read => rw [read, h, Option.map_some]

/-- A slot is there if it was, or if it is asked for. -/
theorem mem_endpoints_step_iff (hs : s.pool.Sound) (call : PoolCall μ π) :
    e ∈ (s.step call).pool.endpoints ↔ call.asks? = some e ∨ e ∈ s.pool.endpoints := by
  have hdoes := step_does hs call
  generalize (s.step call).pool = p' at hdoes ⊢
  cases hdoes with
  | makes e' c asks new =>
    rw [asks, Option.some_inj, eq_comm]
    exact Dict.mem_keys_insert_iff
  | exchanges _ there slots read =>
    rw [endpoints, slots]
    exact (or_iff_right_of_imp (there e)).symm

theorem sound_after (hs : s.pool.Sound) (calls : List (PoolCall μ π)) :
    (s.after calls).pool.Sound := by
  induction calls generalizing s with
  | nil => exact hs
  | cons call calls ih => exact ih (sound_step hs call)

/-- An endpoint keeps its handle over every history. -/
theorem get?_after (hs : s.pool.Sound) (calls : List (PoolCall μ π))
    (h : s.pool.get? e = some handle) : (s.after calls).pool.get? e = some handle := by
  induction calls generalizing s with
  | nil => exact h
  | cons call calls ih => exact ih (sound_step hs call) (get?_step hs call h)

theorem read_after (hs : s.pool.Sound) (calls : List (PoolCall μ π))
    (h : s.pool.read handle = some c) :
    (s.after calls).pool.read handle = some (shown calls handle c) := by
  induction calls generalizing s c with
  | nil => exact h
  | cons call calls ih => exact ih (sound_step hs call) (read_step hs call h)

theorem mem_endpoints_after_iff (hs : s.pool.Sound) (calls : List (PoolCall μ π)) :
    e ∈ (s.after calls).pool.endpoints ↔ e ∈ asked calls ∨ e ∈ s.pool.endpoints := by
  induction calls generalizing s with
  | nil => simp [after, asked]
  | cons call calls ih =>
    have hrest : e ∈ (s.after (call :: calls)).pool.endpoints ↔ _ := ih (sound_step hs call)
    rw [hrest, mem_endpoints_step_iff hs, asked, asked, List.filterMap_cons]
    cases call.asks? with
    | none => simp
    | some e' => simp [or_left_comm, or_assoc, eq_comm]

/-- Whether a handle leads to the slot of an endpoint, where `c` is now. Whatever is called from now
on, the slot stays there, every `get` and `slot` returns the handle and calls no `make`, and what is
found through the handle is the connector that was last put there through any copy of it. -/
structure Leads (s : PoolUse μ π) (e : Endpoint) (handle : Handle) (c : Connector) : Prop where
  get : ∀ more, (s.after more).pool.get? e = some handle
  slot : ∀ more make, (s.after more).pool.slot e make (s.after more).makers =
    (handle, (s.after more).pool, (s.after more).makers)
  read : ∀ more, (s.after more).pool.read handle = some (shown more handle c)

/-- Whether an endpoint has no slot. The slot that is asked for is then made with the connector of
`make`, which is called once, and its handle leads to no other connector. -/
structure Vacant (s : PoolUse μ π) (e : Endpoint) : Prop where
  get : s.pool.get? e = none
  slot : ∀ make : μ → Connector × μ, ∃ handle, s.pool.read handle = none ∧
    s.pool.slot e make s.makers =
      (handle, (s.step (.slot e make)).pool, (make s.makers).2) ∧
    (s.step (.slot e make)).Leads e handle (make s.makers).1

theorem leads_of_read (hs : s.pool.Sound) (h : s.pool.get? e = some handle)
    (hc : s.pool.read handle = some c) : s.Leads e handle c where
  get more := get?_after hs more h
  slot more make := slot_of_some (get?_after hs more h) make _
  read more := read_after hs more hc

theorem vacant_of_get? (hs : s.pool.Sound) (h : s.pool.get? e = none) : s.Vacant e where
  get := h
  slot make := by
    have hpool : (s.step (.slot e make)).pool = (s.pool.grow e (make s.makers).1).2 := by
      rw [step, slot_of_none h]
    refine ⟨(s.pool.grow e (make s.makers).1).1, read_grow_fresh, ?_, ?_⟩
    · rw [hpool, slot_of_none h]
    · refine leads_of_read (sound_step hs _) ?_ ?_
      · rw [hpool, get?_grow_self]
      · rw [hpool, read_grow_self]

/-- After any calls on a new pool, the endpoints with a slot are those that one was asked for, each
listed once and in order. The slot of an endpoint is made when it is first asked for; its handle
leads there for good, and to no other slot. Ending all sessions, in whatever order, leaves every
slot and every connector as it is, but without a session. -/
theorem slots_stay (makers : μ) (host : Host π) (calls : List (PoolCall μ π)) :
    let s := (start makers host).after calls
    (∀ e, e ∈ s.pool.endpoints ↔ e ∈ asked calls) ∧
    s.pool.size = (asked calls).dedup.length ∧
    s.pool.endpoints.Pairwise Endpoint.Before ∧
    (∀ e, e ∉ asked calls → s.Vacant e) ∧
    (∀ e, e ∈ asked calls → ∃ handle c, s.Leads e handle c) ∧
    (∀ e e' handle, s.pool.get? e = some handle → s.pool.get? e' = some handle → e = e') ∧
    ∀ b visit, let p := (terminateAll b visit (s.pool, s.host)).1
      p.slots = s.pool.slots ∧ ∀ handle,
        p.read handle = (s.pool.read handle).map fun c => { c with session := none } := by
  intro s
  have hs : s.pool.Sound := sound_after sound_empty calls
  have hasked : ∀ e, e ∈ s.pool.endpoints ↔ e ∈ asked calls := by
    intro e
    rw [mem_endpoints_after_iff sound_empty]
    exact or_iff_left List.not_mem_nil
  refine ⟨hasked, ?_, s.pool.endpoints_pairwise, fun e he => ?_, fun e he => ?_, hs.apart,
    fun b visit => ⟨slots_terminateAll b visit _ _, hs.read_terminateAll b visit _⟩⟩
  · have hperm : s.pool.endpoints.Perm (asked calls).dedup := by
      refine (List.perm_ext_iff_of_nodup (Dict.nodup_keys _) (List.nodup_dedup _)).2 fun e => ?_
      rw [List.mem_dedup]
      exact hasked e
    rw [← length_endpoints, hperm.length_eq]
  · rw [← hasked, mem_endpoints_iff, Option.not_isSome_iff_eq_none] at he
    exact vacant_of_get? hs he
  · rw [← hasked, mem_endpoints_iff, Option.isSome_iff_exists] at he
    obtain ⟨handle, hhandle⟩ := he
    obtain ⟨c, hc⟩ := exists_read hhandle
    exact ⟨handle, c, leads_of_read hs hhandle hc⟩

end PoolUse

end BeanGauge
