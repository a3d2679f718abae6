import ComposeKube.Lib.Transition

/-!
# Programs that talk to a server

A client sends a request, waits for the answer and goes on. The server is shared with
others and may fail: what it answers, and what has become of its state by then, is a
relation. The client itself may be stopped between any two requests.

A program is the tree of what it sends and how it goes on after each answer. A loop
without a bound is unrolled as often as one likes and then `cut`: a statement about all
the unrolled loops is one about the loop.

* `wp` — what has to hold before a program, such that a contract is kept in every state
  that it passes through and a postcondition holds when it is done.
* `wp_run`, `may_of_run` — a run keeps the contract.
* `Ends` — the same for a program that may fail, with a postcondition for its success.
  `ends_bind`, `ends_foldlM` and `ends_iterate` are its rules.
* `Prog.Sends` — what a program sends, whatever it is answered; `wp_of_sends` is the
  frame rule.
* `Prog.follow` — a program together with a server that is a function.
-/

namespace Client

open Transition

variable {Req : Type} {Ans : Req → Type} {σ α β ε : Type}

/-! ## Programs -/

inductive Prog {Req : Type} (Ans : Req → Type) (α : Type) where
  | done (a : α)
  | send (r : Req) (k : Ans r → Prog Ans α)
  /-- it goes on, and is not looked at any further -/
  | cut

namespace Prog

def bind : Prog Ans α → (α → Prog Ans β) → Prog Ans β
  | done a, f => f a
  | send r k, f => send r fun ans => (k ans).bind f
  | cut, _ => cut

instance : Monad (Prog Ans) where
  pure := done
  bind := bind

theorem bind_done (p : Prog Ans α) : p.bind done = p := by
  induction p with
  | done a => rfl
  | send r k ih => exact congrArg (send r) (funext ih)
  | cut => rfl

theorem bind_bind {γ : Type} (p : Prog Ans α) (f : α → Prog Ans β) (g : β → Prog Ans γ) :
    (p.bind f).bind g = p.bind fun a => (f a).bind g := by
  induction p with
  | done a => rfl
  | send r k ih => exact congrArg (send r) (funext ih)
  | cut => rfl

instance : LawfulMonad (Prog Ans) :=
  .mk' _ (fun p => p.bind_done) (fun _ _ => rfl) (fun p f g => p.bind_bind f g)

/-- What a program that is done has returned. -/
def result : Prog Ans α → Option α
  | done a => some a
  | _ => none

/-- Only a program that is done has a result. -/
theorem eq_done_of_result {p : Prog Ans α} {a : α} (h : p.result = some a) : p = done a := by
  cases p with
  | done b => exact congrArg done (Option.some.inj h)
  | send r k => cases h
  | cut => cases h

/-- A result that is no error, as it can be decided for a program that was run. -/
theorem exists_done_of_toBool {ε : Type} {p : Prog Ans (Except ε α)}
    (h : (p.result.map fun res => res.toBool) = some true) : ∃ a, p = done (.ok a) := by
  obtain ⟨res, hres, hok⟩ := Option.map_eq_some_iff.mp h
  cases res with
  | error err => cases hok
  | ok a => exact ⟨a, eq_done_of_result hres⟩

/-- Send a request, and return the answer. -/
def ask (r : Req) : Prog Ans (Ans r) := send r done

end Prog

/-- A program that stops at an error. -/
abbrev Fallible (Ans : Req → Type) (ε α : Type) := ExceptT ε (Prog Ans) α

/-- A loop without a bound: each pass returns, or says where the next one starts. -/
def iterate (pass : β → Fallible Ans ε (β ⊕ α)) : Nat → β → Fallible Ans ε α
  | 0, _ => ExceptT.mk .cut
  | fuel + 1, b => do
    match ← pass b with
    | .inl b' => iterate pass fuel b'
    | .inr a => pure a

/-! ## Servers and contracts -/

/-- A server: from a state, what it may answer to a request, and the state after that. -/
structure Server (σ : Type) {Req : Type} (Ans : Req → Type) where
  step : σ → (r : Req) → Ans r → σ → Prop

/-- A program as a transition system: the rest of the program, and the server. -/
def Server.system (srv : Server σ Ans) (α : Type) : System (Prog Ans α × σ) (Σ r, Ans r) where
  init _ := True
  step x event y :=
    ∃ k, x.1 = .send event.1 k ∧ y.1 = k event.2 ∧ srv.step x.2 event.1 event.2 y.2

/-- What holds whenever the program waits or stops, and what it may send. -/
structure Contract (σ Req : Type) where
  holds : σ → Prop
  may : σ → Req → Prop

/-- Nothing is required of what is sent. -/
def Contract.keeping (Req : Type) (I : σ → Prop) : Contract σ Req where
  holds := I
  may _ _ := True

variable (srv : Server σ Ans) (c : Contract σ Req)

/-- Requests of this kind may be sent, and change nothing that the contract is about. -/
structure Contract.Admits (P : Req → Prop) : Prop where
  may : ∀ s r, P r → c.holds s → c.may s r
  keep : ∀ s r ans s', P r → c.holds s → srv.step s r ans s' → c.holds s'

def wp : Prog Ans α → (α → σ → Prop) → σ → Prop
  | .done a, Q, s => c.holds s ∧ Q a s
  | .send r k, Q, s =>
    c.holds s ∧ c.may s r ∧ ∀ ans s', srv.step s r ans s' → wp (k ans) Q s'
  | .cut, _, s => c.holds s

variable {srv c} {p : Prog Ans α} {Q : α → σ → Prop} {s s' : σ}

/-- What holds all the time holds now. -/
theorem wp.holds (h : wp srv c p Q s) : c.holds s := by
  cases p with
  | done a => exact h.1
  | send r k => exact h.1
  | cut => exact h

/-- **The rule of sequence.** -/
theorem wp_bind {f : α → Prog Ans β} {Q : β → σ → Prop} :
    wp srv c (p >>= f) Q s ↔ wp srv c p (fun a s => wp srv c (f a) Q s) s := by
  induction p generalizing s with
  -- what holds all the time is part of the precondition of the rest
  | done a => exact ⟨fun h => ⟨h.holds, h⟩, fun h => h.2⟩
  | send r k ih =>
    constructor
    · rintro ⟨hholds, hmay, h⟩
      exact ⟨hholds, hmay, fun ans s' hstep => (ih ans).mp (h ans s' hstep)⟩
    · rintro ⟨hholds, hmay, h⟩
      exact ⟨hholds, hmay, fun ans s' hstep => (ih ans).mpr (h ans s' hstep)⟩
  | cut => exact Iff.rfl

/-- The rule of consequence; the weaker postcondition may use what holds all the time. -/
theorem wp.mono {Q' : α → σ → Prop} (h : wp srv c p Q s)
    (hQ : ∀ a s, c.holds s → Q a s → Q' a s) : wp srv c p Q' s := by
  induction p generalizing s with
  | done a => exact ⟨h.1, hQ a s h.1 h.2⟩
  | send r k ih => exact ⟨h.1, h.2.1, fun ans s' hstep => ih ans (h.2.2 ans s' hstep)⟩
  | cut => exact h

/-- A program that keeps a contract keeps a weaker one. -/
theorem wp.weaken {c' : Contract σ Req} (h : wp srv c p Q s) (hholds : ∀ s, c.holds s → c'.holds s)
    (hmay : ∀ s r, c.may s r → c'.may s r) : wp srv c' p Q s := by
  induction p generalizing s with
  | done a => exact ⟨hholds s h.1, h.2⟩
  | send r k ih =>
    exact ⟨hholds s h.1, hmay s r h.2.1, fun ans s' hstep => ih ans (h.2.2 ans s' hstep)⟩
  | cut => exact hholds s h

/-! ## Runs -/

/-- What is required of a program is required of the rest of it, wherever a run has got to. -/
theorem wp_run {p' : Prog Ans α} {events : List (Σ r, Ans r)} (h : wp srv c p Q s)
    (hrun : (srv.system α).Run (p, s) events (p', s')) : wp srv c p' Q s' := by
  refine hrun.invariant (I := fun x => wp srv c x.1 Q x.2) ?_ h
  rintro ⟨p₁, s₁⟩ ⟨r, ans⟩ ⟨p₂, s₂⟩ h₁ ⟨k, hsend, hnext, hstep⟩
  dsimp only at hsend hnext h₁ ⊢
  subst hsend hnext
  exact h₁.2.2 ans s₂ hstep

/-- A request that is sent may be sent in the state in which it is sent. -/
theorem may_of_run {p' : Prog Ans α} {before after : List (Σ r, Ans r)} {event : Σ r, Ans r}
    (h : wp srv c p Q s) (hrun : (srv.system α).Run (p, s) (before ++ event :: after) (p', s')) :
    ∃ p₁ s₁, (srv.system α).Run (p, s) before (p₁, s₁) ∧ c.holds s₁ ∧ c.may s₁ event.1 := by
  obtain ⟨⟨p₁, s₁⟩, x₂, hbefore, ⟨k, hsend, -, -⟩, -⟩ := hrun.split
  have h₁ := wp_run h hbefore
  dsimp only at hsend
  subst hsend
  exact ⟨_, s₁, hbefore, h₁.1, h₁.2.1⟩

/-- All that a run has sent may be sent. -/
theorem may_of_mem {x : Prog Ans α × σ} {events : List (Σ r, Ans r)} {event : Σ r, Ans r}
    (h : wp srv c p Q s) (hrun : (srv.system α).Run (p, s) events x) (hmem : event ∈ events) :
    ∃ s₁, c.holds s₁ ∧ c.may s₁ event.1 := by
  obtain ⟨before, after, rfl⟩ := List.append_of_mem hmem
  obtain ⟨_, s₁, _, hholds, hmay⟩ := may_of_run h hrun
  exact ⟨s₁, hholds, hmay⟩

/-- A program up to a number of requests, with a server that is a function: the requests
and their answers, and where it has got to. -/
def Prog.follow (serve : σ → (r : Req) → Option (Ans r × σ)) :
    Nat → Prog Ans α → σ → List (Σ r, Ans r) × Prog Ans α × σ
  | n + 1, .send r k, s =>
    match serve s r with
    | some (ans, s') =>
      let rest := (k ans).follow serve n s'
      (⟨r, ans⟩ :: rest.1, rest.2)
    | none => ([], .send r k, s)
  | _, p, s => ([], p, s)

/-- To follow a way of serving the requests is to run. -/
theorem run_follow {serve : σ → (r : Req) → Option (Ans r × σ)}
    (hserve : ∀ s r ans s', serve s r = some (ans, s') → srv.step s r ans s') (n : Nat)
    (p : Prog Ans α) (s : σ) :
    (srv.system α).Run (p, s) (p.follow serve n s).1 (p.follow serve n s).2 := by
  induction n generalizing p s with
  | zero => exact .nil
  | succ n ih =>
    cases p with
    | done a => exact .nil
    | cut => exact .nil
    | send r k =>
      unfold Prog.follow
      cases h : serve s r with
      | none => exact .nil
      | some next =>
        -- the first request and its answer, then the run of the rest
        have hfirst : (srv.system α).Run (.send r k, s) [⟨r, next.1⟩] (k next.1, next.2) :=
          .snoc .nil ⟨k, rfl, rfl, hserve s r next.1 next.2 h⟩
        exact hfirst.append (ih (k next.1) next.2)

/-! ## Programs that may fail -/

variable {x : Fallible Ans ε α} {f : α → Fallible Ans ε β}

variable (srv c) in
/-- The contract is kept, and the postcondition holds if the program succeeds. -/
def Ends (x : Fallible Ans ε α) (Q : α → σ → Prop) (s : σ) : Prop :=
  wp srv c x.run (fun r s => ∀ a, r = .ok a → Q a s) s

/-- The contract holds where a program starts. -/
theorem Ends.holds (h : Ends srv c x Q s) : c.holds s := wp.holds h

/-- The rule of consequence. -/
theorem Ends.mono {Q' : α → σ → Prop} (h : Ends srv c x Q s)
    (hQ : ∀ a s, c.holds s → Q a s → Q' a s) : Ends srv c x Q' s :=
  wp.mono h fun _ s hs hr a ha => hQ a s hs (hr a ha)

/-- The rule for a result. -/
theorem ends_pure {a : α} : Ends srv c (pure a : Fallible Ans ε α) Q s ↔ c.holds s ∧ Q a s := by
  constructor
  · rintro ⟨hholds, hQ⟩
    exact ⟨hholds, hQ a rfl⟩
  · rintro ⟨hholds, hQ⟩
    refine ⟨hholds, fun b hb => ?_⟩
    cases hb
    exact hQ

/-- The rule for an error, of which nothing but the contract is asked. -/
theorem ends_throw {e : ε} : Ends srv c (throw e : Fallible Ans ε α) Q s ↔ c.holds s := by
  constructor
  · exact fun h => h.1
  · exact fun h => ⟨h, fun a ha => nomatch ha⟩

/-- An error of the first part ends the program. -/
theorem ends_bind {Q : β → σ → Prop} :
    Ends srv c (x >>= f) Q s ↔ Ends srv c x (fun a s => Ends srv c (f a) Q s) s := by
  show wp srv c (x.run >>= ExceptT.bindCont f) _ s ↔ _
  rw [wp_bind]
  constructor
  · refine fun h => h.mono fun r s _ hr a ha => ?_
    subst ha
    exact hr
  · refine fun h => wp.mono h fun r s hs hr => ?_
    cases r with
    -- the rest is run after a result only
    | ok a => exact hr a rfl
    | error e => exact ⟨hs, fun b hb => nomatch hb⟩

/-- A first part that keeps a contract of its own, which implies the one of the whole. -/
theorem ends_phase {c' : Contract σ Req} {R : β → σ → Prop} (hx : Ends srv c' x Q s)
    (hholds : ∀ s, c'.holds s → c.holds s) (hmay : ∀ s r, c'.may s r → c.may s r)
    (hf : ∀ a s, c'.holds s → Q a s → Ends srv c (f a) R s) : Ends srv c (x >>= f) R s := by
  refine ends_bind.mpr (wp.weaken (wp.mono hx fun r s hs hr a ha => ?_) hholds hmay)
  exact hf a s hs (hr a ha)

/-- The rule for a test. -/
theorem ends_ite {d : Prop} [Decidable d] {y : Fallible Ans ε α} (hx : d → Ends srv c x Q s)
    (hy : ¬ d → Ends srv c y Q s) : Ends srv c (if d then x else y) Q s := by
  split
  · next hd => exact hx hd
  · next hd => exact hy hd

/-- The errors of a program are looked at. -/
theorem ends_lift {p : Prog Ans α} : Ends srv c (ExceptT.lift p : Fallible Ans ε α) Q s ↔
    wp srv c p Q s := by
  show wp srv c (p >>= fun a => pure (Except.ok a)) _ s ↔ _
  rw [wp_bind]
  constructor
  · exact fun h => h.mono fun a s _ ha => ha.2 a rfl
  · refine fun h => h.mono fun a s hs ha => ⟨hs, fun b hb => ?_⟩
    cases hb
    exact ha

/-- Another error is returned in the place of an error. -/
theorem ends_adapt {ε' : Type} {g : ε → ε'} :
    Ends srv c (ExceptT.adapt g x) Q s ↔ Ends srv c x Q s := by
  -- to change the error is to go on with the changed outcome
  show wp srv c (x.run >>= fun r => pure (r.mapError g)) _ s ↔ _
  rw [wp_bind]
  constructor
  · refine fun h => wp.mono h fun r s _ hr a ha => ?_
    subst ha
    exact hr.2 a rfl
  · refine fun h => wp.mono h fun r s hs hr => ⟨hs, fun a ha => ?_⟩
    cases r with
    | ok b =>
      cases ha
      exact hr a rfl
    | error e => cases ha

/-- A loop over a list, with an invariant about the elements that it has been through. -/
theorem ends_foldlM {γ : Type} {step : β → γ → Fallible Ans ε β} {l : List γ} {b : β}
    (I : List γ → β → σ → Prop) (hholds : ∀ done b s, I done b s → c.holds s)
    (hstep : ∀ done x rest b s, l = done ++ x :: rest → I done b s →
      Ends srv c (step b x) (I (done ++ [x])) s) (h : I [] b s) :
    Ends srv c (l.foldlM step b) (I l) s := by
  -- the list is split into what is done and what remains, over which the induction goes
  suffices hrest : ∀ done rest b s, l = done ++ rest → I done b s →
      Ends srv c (rest.foldlM step b) (I l) s from hrest [] l b s rfl h
  intro done rest
  induction rest generalizing done with
  | nil =>
    intro b s hl hI
    rw [List.foldlM_nil, ends_pure]
    rw [List.append_nil] at hl
    subst hl
    exact ⟨hholds _ _ _ hI, hI⟩
  | cons x rest ih =>
    intro b s hl hI
    rw [List.foldlM_cons, ends_bind]
    refine (hstep done x rest b s hl hI).mono fun b' s' _ hI' => ih (done ++ [x]) b' s' ?_ hI'
    rw [hl, List.append_assoc]
    rfl

/-- A loop over a list that deals with every element of some kind. The invariant has a
condition under which something has been dealt with; each element that is one of the kind
adds to it. -/
theorem ends_visits {γ : Type} {step : β → γ → Fallible Ans ε β} {l : List γ} {b : β}
    (D : γ → Prop) (I : Prop → β → σ → Prop)
    (hmono : ∀ V V' b s, (V' → V) → I V b s → I V' b s) (hholds : ∀ V b s, I V b s → c.holds s)
    (hstep : ∀ x ∈ l, ∀ V b s, I V b s → Ends srv c (step b x) (I (V ∨ D x)) s) {V : Prop}
    (h : I V b s) : Ends srv c (l.foldlM step b) (I (V ∨ ∃ x ∈ l, D x)) s := by
  refine ends_foldlM (fun done b s => I (V ∨ ∃ x ∈ done, D x) b s) (fun _ _ _ => hholds _ _ _) ?_ ?_
  · intro done x rest b s hl hI
    have hx : x ∈ l := hl ▸ List.mem_append_right done (List.mem_cons_self ..)
    refine (hstep x hx _ b s hI).mono fun b' s' _ hI' => hmono _ _ _ _ ?_ hI'
    rintro (hV | ⟨y, hy, hD⟩)
    · exact Or.inl (Or.inl hV)
    · rcases List.mem_append.mp hy with hy | hy
      · exact Or.inl (Or.inr ⟨y, hy, hD⟩)
      · -- this is the one that was visited just now
        cases List.mem_singleton.mp hy
        exact Or.inr hD
  · -- at the start none has been visited
    refine hmono _ _ _ _ ?_ h
    rintro (hV | ⟨x, hx, -⟩)
    · exact hV
    · cases hx

/-- A loop without a bound, with an invariant. -/
theorem ends_iterate {pass : β → Fallible Ans ε (β ⊕ α)} {fuel : Nat} {b : β}
    (I : β → σ → Prop) (hholds : ∀ b s, I b s → c.holds s)
    (hpass : ∀ b s, I b s → Ends srv c (pass b) (fun next s => match next with
      | .inl b' => I b' s
      | .inr a => Q a s) s) (h : I b s) :
    Ends srv c (iterate pass fuel b) Q s := by
  induction fuel generalizing b s with
  -- out of fuel: the program is cut, which ends nowhere
  | zero => exact hholds b s h
  | succ fuel ih =>
    rw [iterate, ends_bind]
    refine (hpass b s h).mono fun next s' hs' hnext => ?_
    cases next with
    | inl b' => exact ih hnext
    | inr a => exact ends_pure.mpr ⟨hs', hnext⟩

/-! ## What is sent -/

/-- All that a program can send is of this kind, whatever it is answered. -/
def Prog.Sends (P : Req → Prop) : Prog Ans α → Prop
  | .done _ => True
  | .send r k => P r ∧ ∀ ans, (k ans).Sends P
  | .cut => True

def Sends (P : Req → Prop) (x : Fallible Ans ε α) : Prop := x.run.Sends P

section Sends

variable {P : Req → Prop}

/-- The requests of a program in two parts. -/
theorem Prog.Sends.bind {f : α → Prog Ans β} (hp : p.Sends P) (hf : ∀ a, (f a).Sends P) :
    (p >>= f).Sends P := by
  induction p with
  | done a => exact hf a
  | send r k ih => exact ⟨hp.1, fun ans => ih ans (hp.2 ans)⟩
  | cut => trivial

theorem sends_pure (a : α) : Sends P (pure a : Fallible Ans ε α) := trivial

theorem sends_throw (e : ε) : Sends P (throw e : Fallible Ans ε α) := trivial

/-- Likewise where the first part may fail. -/
theorem Sends.bind (hx : Sends P x) (hf : ∀ a, Sends P (f a)) : Sends P (x >>= f) := by
  refine Prog.Sends.bind hx fun r => ?_
  cases r with
  | ok a => exact hf a
  | error e => trivial

/-- A program whose outcome is a value. -/
theorem sends_lift (hp : p.Sends P) : Sends P (ExceptT.lift p : Fallible Ans ε α) :=
  Prog.Sends.bind hp fun _ => trivial

/-- The error that is returned does not matter. -/
theorem sends_adapt {ε' : Type} {g : ε → ε'} (hx : Sends P x) : Sends P (ExceptT.adapt g x) :=
  Prog.Sends.bind hx fun _ => trivial

/-- The requests may be taken to be more than they are. -/
theorem Prog.Sends.mono {P' : Req → Prop} (hp : p.Sends P) (h : ∀ r, P r → P' r) :
    p.Sends P' := by
  induction p with
  | done a => trivial
  | send r k ih => exact ⟨h r hp.1, fun ans => ih ans (hp.2 ans)⟩
  | cut => trivial

/-- Likewise for programs that may fail. -/
theorem Sends.mono {P' : Req → Prop} (hx : Sends P x) (h : ∀ r, P r → P' r) : Sends P' x :=
  Prog.Sends.mono hx h

/-- Both ways that a test may take. -/
theorem sends_ite {d : Prop} [Decidable d] {y : Fallible Ans ε α} (hx : Sends P x)
    (hy : Sends P y) : Sends P (if d then x else y) := by
  split
  · exact hx
  · exact hy

/-- A loop over a list. -/
theorem sends_foldlM {γ : Type} {step : β → γ → Fallible Ans ε β} {l : List γ} {b : β}
    (hstep : ∀ b, ∀ x ∈ l, Sends P (step b x)) : Sends P (l.foldlM step b) := by
  induction l generalizing b with
  | nil => exact sends_pure b
  | cons x rest ih =>
    rw [List.foldlM_cons]
    refine (hstep b x (List.mem_cons_self ..)).bind fun b' => ih fun b y hy => ?_
    exact hstep b y (List.mem_cons_of_mem x hy)

/-- A loop with fuel. -/
theorem sends_iterate {pass : β → Fallible Ans ε (β ⊕ α)} (hpass : ∀ b, Sends P (pass b))
    (fuel : Nat) (b : β) : Sends P (iterate pass fuel b) := by
  induction fuel generalizing b with
  | zero => trivial
  | succ fuel ih =>
    rw [iterate]
    refine (hpass b).bind fun next => ?_
    cases next with
    | inl b' => exact ih b'
    | inr a => exact sends_pure a

/-- **The frame rule**: what none of the requests changes is kept. -/
theorem wp_of_sends (hp : p.Sends P) (hc : c.Admits srv P) (hs : c.holds s) :
    wp srv c p (fun _ _ => True) s := by
  induction p generalizing s with
  | done a => exact ⟨hs, trivial⟩
  | send r k ih =>
    refine ⟨hs, hc.may s r hp.1 hs, fun ans s' hstep => ?_⟩
    exact ih ans (hp.2 ans) (hc.keep s r ans s' hp.1 hs hstep)
  | cut => exact hs

/-- **A program all of whose requests are admitted keeps the contract.** -/
theorem Sends.ends (hx : Sends P x) (hc : c.Admits srv P) (hs : c.holds s) :
    Ends srv c x (fun _ _ => True) s :=
  wp.mono (wp_of_sends hx hc hs) fun _ _ _ _ _ _ => trivial

/-- What a program sends is added to what it is required to send. -/
theorem wp.sends {I : σ → Prop} (h : wp srv (.keeping Req I) p Q s) (hp : p.Sends P) :
    wp srv ⟨I, fun _ r => P r⟩ p Q s := by
  induction p generalizing s with
  | done a => exact h
  | send r k ih => exact ⟨h.1, hp.1, fun ans s' hstep => ih ans (h.2.2 ans s' hstep) (hp.2 ans)⟩
  | cut => exact h

/-- What is known of the requests can be added to a contract. -/
theorem Ends.sends {I : σ → Prop} (h : Ends srv (.keeping Req I) x Q s) (hx : Sends P x) :
    Ends srv ⟨I, fun _ r => P r⟩ x Q s :=
  wp.sends h hx

end Sends

end Client
