import Mathlib.Tactic.Lemma
import Mathlib.Tactic.SplitIfs

/-!
# Sessions of the web client

All routes of `App` are public ones: `PublicRoute` shows its screen while nobody is logged in and
goes to `/` otherwise, which is a public route, too. `Main` asks for the profile of the user when it
is mounted, and logs out if there is none.

So what the client is for is shown to those who are not logged in, and nobody who has logged in
sees anything again.
-/

namespace Sessions

/-! ## The client -/

/-- The pages inside of `Main`. -/
inductive Page where
  | subMenu2
  | subMenu1
  | blank
  | profile
  | dashboard
  | registries
  | registry (id : String)
  | devices
  | device (id : String)
  | deviceTelemetry (deviceId : String)
  deriving DecidableEq

/-- The routes of `App`. -/
inductive Screen where
  | login
  | register
  | forgotPassword
  | recoverPassword
  | main (page : Page)
  deriving DecidableEq

/-- The token in the local storage, the state of `auth`, where the browser is, whether `Main` is
mounted, and how many profiles and tokens are being waited for. -/
structure Client where
  token : Option String
  isLoggedIn : Bool
  location : Option Screen
  mounted : Bool
  profiles : Nat
  logins : Nat
  deriving DecidableEq

/-- An empty token is none. -/
def hasToken (token : Option String) : Bool :=
  match token with
  | some t => t ≠ ""
  | none => false

def Client.isAuthenticated (s : Client) : Bool := s.isLoggedIn || hasToken s.token

/-- `PublicRoute`, around every screen. -/
def Client.shown (s : Client) : Option Screen := if s.isAuthenticated then none else s.location

/-- `Navigate`, where the address has a route, and the effect of `Main` when it is mounted. -/
def Client.render (s : Client) : Client :=
  let s := if s.isAuthenticated ∧ s.location ≠ none then
      { s with location := some (.main .dashboard) }
    else s
  match s.shown with
  | some (.main _) =>
    if s.mounted then s else { s with mounted := true, profiles := s.profiles + 1 }
  | _ => { s with mounted := false }

/-- The initial state of the client, at an address that may have no route. -/
def load (token : Option String) (location : Option Screen) : Client :=
  Client.render ⟨token, hasToken token, location, false, 0, 0⟩

def Client.loginUser (s : Client) (token : String) : Client :=
  { s with token := some token, isLoggedIn := true }

def Client.logoutUser (s : Client) : Client := { s with token := none, isLoggedIn := false }

inductive Event where
  | reload (location : Option Screen)
  | navigate (location : Option Screen)
  | submit
  | loginOk (token : String)
  | loginFailed
  | profileOk
  | profileFailed
  | logOut
  deriving DecidableEq

/-- The forms of two screens ask for a token. A token that comes is stored, and then the client
goes to `/`. -/
def step (s : Client) : Event → Client
  | .reload location => load s.token location
  | .navigate location => Client.render { s with location := location }
  | .submit =>
    if s.shown = some .login ∨ s.shown = some .register then { s with logins := s.logins + 1 }
    else s
  | .loginOk token =>
    if s.logins = 0 then s
    else Client.render
      { s.loginUser token with location := some (.main .dashboard), logins := s.logins - 1 }
  | .loginFailed => { s with logins := s.logins - 1 }
  | .profileOk => { s with profiles := s.profiles - 1 }
  | .profileFailed =>
    if s.profiles = 0 then s
    else Client.render { s.logoutUser with profiles := s.profiles - 1 }
  | .logOut =>
    match s.shown with
    | some (.main _) => Client.render { s.logoutUser with location := some .login }
    | _ => s

def run (s : Client) (events : List Event) : Client := events.foldl step s

/-- The tokens that come are not empty. -/
def Event.Sound : Event → Prop
  | .loginOk token => token ≠ ""
  | _ => True

/-! ## Logged in -/

/-- Nobody is left who could log out. -/
structure Locked (s : Client) : Prop where
  isLoggedIn : s.isLoggedIn = true
  token : hasToken s.token = true
  profiles : s.profiles = 0

variable {s : Client}

lemma Locked.shown (h : Locked s) : s.shown = none := by
  rw [Client.shown, Client.isAuthenticated, h.isLoggedIn]
  rfl

lemma Locked.render (h : Locked s) : Locked s.render := by
  have hnothing : ∀ location, ({ s with location } : Client).shown = none := fun location =>
    Locked.shown ⟨h.isLoggedIn, h.token, h.profiles⟩
  rw [Client.render]
  by_cases hroute : s.isAuthenticated ∧ s.location ≠ none
  · simp only [if_pos hroute, hnothing]
    exact ⟨h.isLoggedIn, h.token, h.profiles⟩
  · simp only [if_neg hroute, h.shown]
    exact ⟨h.isLoggedIn, h.token, h.profiles⟩

lemma hasToken_some {t : String} (h : t ≠ "") : hasToken (some t) = true := decide_eq_true h

lemma Locked.step (h : Locked s) {event : Event} (hsound : event.Sound) :
    Locked (Sessions.step s event) := by
  cases event with
  | reload location => exact Locked.render ⟨h.token, h.token, rfl⟩
  | navigate location => exact Locked.render ⟨h.isLoggedIn, h.token, h.profiles⟩
  | submit =>
    rw [Sessions.step, h.shown]
    exact h
  | loginOk token =>
    rw [Sessions.step]
    split_ifs
    · exact h
    · exact Locked.render ⟨rfl, hasToken_some hsound, h.profiles⟩
  | loginFailed => exact ⟨h.isLoggedIn, h.token, h.profiles⟩
  | profileOk => exact ⟨h.isLoggedIn, h.token, congrArg (· - 1) h.profiles⟩
  | profileFailed =>
    rw [Sessions.step, if_pos h.profiles]
    exact h
  | logOut =>
    rw [Sessions.step, h.shown]
    exact h

lemma Locked.run (h : Locked s) {events : List Event} (hsound : ∀ event ∈ events, event.Sound) :
    Locked (run s events) := by
  induction events generalizing s with
  | nil => exact h
  | cons event events ih =>
    rw [List.forall_mem_cons] at hsound
    exact ih (h.step hsound.1) hsound.2

/-- A token that comes while no profile is being waited for. -/
lemma locked_loginOk {t : String} (ht : t ≠ "") (hprofiles : s.profiles = 0)
    (hlogins : s.logins ≠ 0) : Locked (step s (.loginOk t)) := by
  rw [step, if_neg hlogins]
  exact Locked.render ⟨rfl, hasToken_some ht, hprofiles⟩

lemma run_append (s : Client) (earlier later : List Event) :
    run s (earlier ++ later) = run (run s earlier) later := List.foldl_append

/-- However the client was used before, once a token has come, and no profile was being waited for,
no screen is ever shown again: not at another address, not after a reload, not for another token.
Nor is the profile of the user asked for, and there is nothing to log out with. -/
theorem nothing_after_login (token : Option String) (location : Option Screen)
    (earlier later : List Event) (t : String) (ht : t ≠ "")
    (hprofiles : (run (load token location) earlier).profiles = 0)
    (hlogins : (run (load token location) earlier).logins ≠ 0)
    (hsound : ∀ event ∈ later, event.Sound) :
    let s := run (load token location) (earlier ++ .loginOk t :: later)
    s.shown = none ∧ s.isLoggedIn = true ∧ hasToken s.token = true ∧ s.profiles = 0 := by
  have hlocked : Locked (run (load token location) (earlier ++ .loginOk t :: later)) := by
    rw [run_append]
    exact (locked_loginOk ht hprofiles hlogins).run hsound
  exact ⟨hlocked.shown, hlocked.isLoggedIn, hlocked.token, hlocked.profiles⟩

/-- The way in: `Main` has no profile, and logging out of it leads to the log in. -/
def wayIn : List Event := [.profileFailed, .logOut, .submit]

/-- What a user tries then. -/
def wayOn : List Event :=
  [.navigate (some (.main .registries)), .logOut, .reload (some .login), .submit]

theorem nothing_after_login_way :
    let s := run (load none (some (.main .dashboard))) (wayIn ++ .loginOk "token" :: wayOn)
    s.shown = none ∧ s.isLoggedIn = true ∧ hasToken s.token = true ∧ s.profiles = 0 :=
  nothing_after_login none (some (.main .dashboard)) wayIn wayOn "token" (by decide) (by decide)
    (by decide) (by simp [wayOn, Event.Sound])

end Sessions
