import BeanGauge.Endpoint
/-!
# The text of an endpoint

An endpoint is known to the registry by its text, and no two endpoints have the same one: the port
is what stands behind the last colon, whatever the host is.
-/

namespace BeanGauge.Endpoint

/-- Only the last colon has no colon behind it. -/
theorem last_colon {h h' d d' : List Char} (hd : ':' ∉ d) (hd' : ':' ∉ d')
    (he : h ++ ':' :: d = h' ++ ':' :: d') : h = h' ∧ d = d' := by
  rcases List.append_eq_append_iff.1 he with ⟨mid, rfl, hmid⟩ | ⟨mid, rfl, hmid⟩
  · cases mid with
    | nil => exact ⟨(List.append_nil h).symm, (List.cons.inj hmid).2⟩
    | cons c mid =>
      obtain ⟨-, rfl⟩ := List.cons.inj hmid
      exact absurd (by simp) hd
  · cases mid with
    | nil => exact ⟨List.append_nil h', (List.cons.inj hmid).2.symm⟩
    | cons c mid =>
      obtain ⟨-, rfl⟩ := List.cons.inj hmid
      exact absurd (by simp) hd'

theorem colon_not_mem_repr (n : Nat) : ':' ∉ (toString n).toList := by
  intro hm
  rw [Nat.toString_eq_repr, Nat.repr, String.toList_ofList] at hm
  have hdigit : ':'.isDigit := Nat.isDigit_of_mem_toDigits (by decide) (by decide) hm
  exact absurd hdigit (by decide)

/-- Two endpoints never have the same text: a port has no colon. -/
theorem text_injective : Function.Injective text := by
  rintro ⟨host, port⟩ ⟨host', port'⟩ he
  have hlist := congrArg String.toList he
  simp only [text, String.toList_append, List.append_assoc] at hlist
  obtain ⟨hhost, hport⟩ := last_colon (colon_not_mem_repr _) (colon_not_mem_repr _) hlist
  have hread := congrArg (fun ds => Nat.ofDigitChars 10 ds 0) hport
  have hnat : port.toNat = port'.toNat := by
    simpa [Nat.toString_eq_ofList_toDigits] using hread
  rw [String.toList_injective hhost, UInt16.toNat_inj.1 hnat]

end BeanGauge.Endpoint
