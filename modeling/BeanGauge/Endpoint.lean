import BeanGauge.Dict
import BeanGauge.Text.Debug
/-!
Where a virtual machine is reached, as whom, and how the console for it is launched.
-/

namespace BeanGauge

structure Endpoint where
  host : String
  port : UInt16
  deriving DecidableEq, Inhabited

namespace Endpoint

/-- The endpoint as `host:port`. -/
def text (e : Endpoint) : String := e.host ++ ":" ++ toString e.port.toNat

def debug (e : Endpoint) : String :=
  "Endpoint \x7b host: " ++ Text.debug e.host ++ ", port: " ++ toString e.port.toNat ++ " \x7d"

/-- Endpoints are ordered by host and then by port. -/
instance : KeyOrder Endpoint where
  lt a b := a.host < b.host ∨ (a.host = b.host ∧ a.port < b.port)
  decLt a b := inferInstanceAs (Decidable (_ ∨ _))
  irrefl a h := by
    rcases h with h | ⟨-, h⟩
    · exact String.lt_irrefl _ h
    · exact UInt16.lt_irrefl _ h
  trans := by
    rintro ⟨h₁, p₁⟩ ⟨h₂, p₂⟩ ⟨h₃, p₃⟩ (h | ⟨h, hp⟩) (h' | ⟨h', hp'⟩)
    · exact .inl (String.lt_trans h h')
    · exact .inl (h' ▸ h)
    · exact .inl (h ▸ h')
    · exact .inr ⟨h.trans h', UInt16.lt_trans hp hp'⟩
  connected := by
    rintro ⟨h₁, p₁⟩ ⟨h₂, p₂⟩ h h'
    have hh : h₁ = h₂ :=
      KeyOrder.connected (fun hl => h (.inl hl)) (fun hl => h' (.inl hl))
    subst hh
    have hp : p₁ = p₂ := by
      refine UInt16.le_antisymm (UInt16.not_lt.1 fun hl => h' (.inr ⟨rfl, hl⟩))
        (UInt16.not_lt.1 fun hl => h (.inr ⟨rfl, hl⟩))
    subst hp
    rfl

end Endpoint

structure Credentials where
  user : String
  password : String
  deriving DecidableEq

/-- The credentials without their secret. -/
def Credentials.debug (c : Credentials) : String :=
  "Credentials \x7b user: " ++ Text.debug c.user ++ ", password: \"***\" \x7d"

/-- The program that runs a console, and what it is always called with. -/
structure Launcher where
  program : String
  args : List String
  deriving DecidableEq

/-- The console runs in a virtual machine of its own. -/
def Launcher.default : Launcher := ⟨"java", ["-jar", "jmxterm-uber.jar"]⟩

/-- All arguments of the console of an endpoint. -/
def Launcher.argv (l : Launcher) (e : Endpoint) (credentials : Option Credentials) : List String :=
  l.args ++ ["-l", e.text]
    ++ (credentials.map fun c => ["-u", c.user, "-p", c.password]).getD []

end BeanGauge
