import Mathlib.Data.List.Induction
/-!
# Transcripts — a client and a server that remembers

The answer to a request may depend on all the requests before it.  `lastOk` is what the last request of a kind that
succeeded brought, and `Each` a law of every request in view of those before it; both grow with the transcript.
-/
namespace Transcripts

variable {ρ ε α : Type}

/-- A server: the answer to a request after others. -/
abbrev Server (ρ ε α : Type) := List ρ → ρ → Except ε α

/-- The answers of one kind that succeeded, the last one remembered, from the requests `done`. -/
def lastFrom (server : Server ρ ε α) (kind : ρ → Bool) : List ρ → Option α → List ρ → Option α
  | _, last, [] => last
  | done, last, r :: rs =>
    lastFrom server kind (done ++ [r])
      (match kind r, server done r with
        | true, .ok a => some a
        | _, _ => last) rs

/-- What the last request of a kind that succeeded brought. -/
def lastOk (server : Server ρ ε α) (kind : ρ → Bool) (requests : List ρ) : Option α :=
  lastFrom server kind [] none requests

section
variable {server : Server ρ ε α} {kind : ρ → Bool}

theorem lastFrom_append : ∀ (rs done : List ρ) (last : Option α) (r : ρ),
    lastFrom server kind done last (rs ++ [r]) =
      match kind r, server (done ++ rs) r with
        | true, .ok a => some a
        | _, _ => lastFrom server kind done last rs
  | [], done, last, r => by
    rw [List.nil_append, List.append_nil]
    rfl
  | q :: rs, done, last, r => by
    rw [List.cons_append, lastFrom, lastFrom_append rs, lastFrom, List.append_assoc]
    rfl

/-- A request that succeeds is the last of its kind. -/
theorem lastOk_of_ok {requests : List ρ} {r : ρ} {a : α} (hkind : kind r = true) (hok : server requests r = .ok a) :
    lastOk server kind (requests ++ [r]) = some a := by
  rw [lastOk, lastFrom_append, List.nil_append, hkind, hok]

theorem lastOk_of_other {requests : List ρ} {r : ρ} (hkind : kind r = false) :
    lastOk server kind (requests ++ [r]) = lastOk server kind requests := by
  rw [lastOk, lastFrom_append, hkind]
  rfl

theorem lastOk_of_error {requests : List ρ} {r : ρ} {e : ε} (herror : server requests r = .error e) :
    lastOk server kind (requests ++ [r]) = lastOk server kind requests := by
  rw [lastOk, lastFrom_append, List.nil_append, herror]
  cases kind r <;> rfl

end

/-- A law of every request, in view of those before it. -/
def Each (law : List ρ → ρ → Prop) (requests : List ρ) : Prop :=
  ∀ before r after, requests = before ++ r :: after → law before r

variable {law : List ρ → ρ → Prop}

theorem each_nil : Each law [] := fun before r after h => by
  cases before <;> cases h

theorem each_append {requests : List ρ} {r : ρ} (h : Each law requests) (hr : law requests r) :
    Each law (requests ++ [r]) := by
  intro before q after heq
  rcases List.eq_nil_or_concat after with rfl | ⟨after, last, rfl⟩
  · obtain ⟨rfl, hq⟩ := List.append_inj' heq rfl
    obtain rfl := List.singleton_inj.1 hq
    exact hr
  · rw [List.concat_eq_append, ← List.cons_append, ← List.append_assoc] at heq
    exact h before q after (List.append_inj' heq rfl).1

end Transcripts
