import Mathlib.Data.List.Infix
/-!
# Restart — programs that may stop between two writes and run again

A program answers from a state and lists the writes it makes; each write is atomic.  A stop leaves the state after some
first writes.  A program is `Recoverable` from a state when running it again after any stop ends as the run without a
stop ends.  `recoverable_bind` and `redoable_forEach` put programs together: what was done must still be done after
every write that comes later.
-/
namespace Restart

/-- A program over states `σ` with writes `ω`: its outcome, and its writes in order. -/
def Prog {σ ω : Type} (_apply : σ → ω → σ) (ε α : Type) : Type := σ → Except ε α × List ω

namespace Prog

variable {σ ω ε α β : Type} {apply : σ → ω → σ}

/-- The state a program leaves. -/
def final (p : Prog apply ε α) (s : σ) : σ := (p s).2.foldl apply s

def bind (p : Prog apply ε α) (next : α → Prog apply ε β) : Prog apply ε β := fun s =>
  match p s with
  | (.ok a, ws) => ((next a (ws.foldl apply s)).1, ws ++ (next a (ws.foldl apply s)).2)
  | (.error e, ws) => (.error e, ws)

instance : Monad (Prog apply ε) where
  pure a := fun _ => (.ok a, [])
  bind := bind

def raise (e : ε) : Prog apply ε α := fun _ => (.error e, [])

/-- Looks at the state. -/
def look (f : σ → α) : Prog apply ε α := fun s => (.ok (f s), [])

/-- Makes a write and takes the reply. -/
def perform (reply : σ → ω → α) (w : ω) : Prog apply ε α := fun s => (.ok (reply s w), [w])

/-- `for p in ps: p()`. -/
def forEach : List (Prog apply ε α) → Prog apply ε Unit
  | [] => pure ()
  | p :: ps => do
    let _ ← p
    forEach ps

theorem bind_ok {p : Prog apply ε α} {s : σ} {a : α} (h : (p s).1 = .ok a) (next : α → Prog apply ε β) :
    (p >>= next) s = ((next a (p.final s)).1, (p s).2 ++ (next a (p.final s)).2) := by
  show Prog.bind p next s = _
  unfold Prog.bind final
  cases hp : p s with
  | mk r ws =>
    rw [hp] at h
    cases h
    rfl

theorem bind_error {p : Prog apply ε α} {s : σ} {e : ε} (h : (p s).1 = .error e) (next : α → Prog apply ε β) :
    (p >>= next) s = (.error e, (p s).2) := by
  show Prog.bind p next s = _
  unfold Prog.bind
  cases hp : p s with
  | mk r ws =>
    rw [hp] at h
    cases h
    rfl

theorem final_bind_ok {p : Prog apply ε α} {s : σ} {a : α} (h : (p s).1 = .ok a) (next : α → Prog apply ε β) :
    (p >>= next).final s = (next a).final (p.final s) := by
  unfold final
  rw [bind_ok h, List.foldl_append]
  rfl

theorem final_bind_error {p : Prog apply ε α} {s : σ} {e : ε} (h : (p s).1 = .error e) (next : α → Prog apply ε β) :
    (p >>= next).final s = p.final s := by
  unfold final
  rw [bind_error h]

theorem forEach_ok : ∀ (ps : List (Prog apply ε α)), (∀ p ∈ ps, ∀ s, ∃ a, (p s).1 = .ok a) → ∀ s, (forEach ps s).1 = .ok ()
  | [], _, _ => rfl
  | p :: ps, h, s => by
    obtain ⟨a, ha⟩ := h p List.mem_cons_self s
    show ((p >>= fun _ => forEach ps) s).1 = .ok ()
    rw [bind_ok ha]
    exact forEach_ok ps (fun q hq => h q (List.mem_cons_of_mem _ hq)) _

/-! ## The writes a program can make -/

/-- Every write of the program has `W`. -/
def Emits (p : Prog apply ε α) (W : ω → Prop) : Prop := ∀ s, ∀ w ∈ (p s).2, W w

variable {W : ω → Prop}

theorem Emits.bind {p : Prog apply ε α} {next : α → Prog apply ε β} (hp : p.Emits W) (hnext : ∀ a, (next a).Emits W) :
    (p >>= next).Emits W := fun s w hw => by
  cases h : (p s).1 with
  | ok a =>
    rw [bind_ok h] at hw
    rcases List.mem_append.1 hw with hw | hw
    · exact hp s w hw
    · exact hnext a _ w hw
  | error e =>
    rw [bind_error h] at hw
    exact hp s w hw

/-! ## Running again -/

/-- From `c` the program ends as it does from `s`: with the same error, if any, and in the same state. -/
def SameEnd (p : Prog apply ε α) (c s : σ) : Prop :=
  (p c).1.map (fun _ => ()) = (p s).1.map (fun _ => ()) ∧ p.final c = p.final s

/-- After a stop anywhere, the program ends as it would have ended. -/
def Recoverable (p : Prog apply ε α) (s : σ) : Prop := ∀ ws, ws <+: (p s).2 → p.SameEnd (ws.foldl apply s) s

/-- The program returns and leaves the state as it is. -/
def Done (p : Prog apply ε α) (s : σ) : Prop := (∃ a, (p s).1 = .ok a) ∧ p.final s = s

theorem map_ok_iff {r : Except ε α} : r.map (fun _ => ()) = .ok () ↔ ∃ a, r = .ok a := by
  cases r <;> simp [Except.map]

theorem map_error_iff {r : Except ε α} {e : ε} : r.map (fun _ => ()) = .error e ↔ r = .error e := by
  cases r <;> simp [Except.map]

/-- **A recoverable program that returned is done.** -/
theorem Recoverable.done {p : Prog apply ε α} {s : σ} (h : p.Recoverable s) {a : α} (hok : (p s).1 = .ok a) :
    p.Done (p.final s) := by
  obtain ⟨hout, hfinal⟩ := h (p s).2 (List.prefix_refl _)
  rw [hok] at hout
  exact ⟨map_ok_iff.1 hout, hfinal⟩

theorem recoverable_of_no_writes {p : Prog apply ε α} {s : σ} (h : (p s).2 = []) : p.Recoverable s := by
  intro ws hws
  rw [h] at hws
  rw [List.prefix_nil.1 hws]
  exact ⟨rfl, rfl⟩

/-- A stop in two lists of writes comes within the first, or after some of the second. -/
theorem stop_append {ws us vs : List ω} (h : ws <+: us ++ vs) : ws <+: us ∨ ∃ vs', vs' <+: vs ∧ ws = us ++ vs' := by
  by_cases hlen : ws.length ≤ us.length
  · exact Or.inl (List.prefix_of_prefix_length_le h (List.prefix_append us vs) hlen)
  · have hus := List.prefix_of_prefix_length_le (List.prefix_append us vs) h (by omega)
    obtain ⟨vs', rfl⟩ := hus
    exact Or.inr ⟨vs', (List.prefix_append_right_inj us).1 h, rfl⟩

/-- A stop in two programs, where the first is still done if the stop came inside the second. -/
theorem sameEnd_bind {p : Prog apply ε α} {q : Prog apply ε β} {s : σ} (hp : p.Recoverable s)
    (hq : ∀ a, (p s).1 = .ok a → q.Recoverable (p.final s)) {ws : List ω} (hws : ws <+: ((p >>= fun _ => q) s).2)
    (hdone : ∀ a, (p s).1 = .ok a → ∀ vs, vs <+: (q (p.final s)).2 → ws.foldl apply s = vs.foldl apply (p.final s) →
      p.Done (vs.foldl apply (p.final s))) :
    (p >>= fun _ => q).SameEnd (ws.foldl apply s) s := by
  cases hps : (p s).1 with
  | error e =>
    rw [bind_error hps] at hws
    obtain ⟨hout, hfinal⟩ := hp ws hws
    rw [hps] at hout
    have hpc := map_error_iff.1 hout
    refine ⟨?_, ?_⟩
    · rw [bind_error hps, bind_error hpc]
    · rw [final_bind_error hps, final_bind_error hpc, hfinal]
  | ok a =>
    rw [bind_ok hps] at hws
    rcases stop_append hws with hws | ⟨vs, hvs, rfl⟩
    · -- The stop came inside the first program.
      obtain ⟨hout, hfinal⟩ := hp ws hws
      rw [hps] at hout
      obtain ⟨a', hpc⟩ := map_ok_iff.1 hout
      refine ⟨?_, ?_⟩
      · rw [bind_ok hps, bind_ok hpc, hfinal]
      · rw [final_bind_ok hps, final_bind_ok hpc, hfinal]
    · -- The stop came inside the second one, and the first changes nothing any more.
      have hfold : ((p s).2 ++ vs).foldl apply s = vs.foldl apply (p.final s) := List.foldl_append
      obtain ⟨⟨a', hpc⟩, hfinal⟩ := hdone a hps vs hvs hfold
      rw [hfold]
      obtain ⟨hout, hq'⟩ := hq a hps vs hvs
      refine ⟨?_, ?_⟩
      · rw [bind_ok hps, bind_ok hpc, hfinal]
        exact hout
      · rw [final_bind_ok hps, final_bind_ok hpc, hfinal]
        exact hq'

/-- **One program after another**: the first must still be done wherever the second can stop. -/
theorem recoverable_bind {p : Prog apply ε α} {q : Prog apply ε β} {s : σ} (hp : p.Recoverable s)
    (hq : ∀ a, (p s).1 = .ok a → q.Recoverable (p.final s))
    (hdone : ∀ a, (p s).1 = .ok a → ∀ ws, ws <+: (q (p.final s)).2 → p.Done (ws.foldl apply (p.final s))) :
    (p >>= fun _ => q).Recoverable s := fun _ hws =>
  sameEnd_bind hp hq hws (fun a ha vs hvs _ => hdone a ha vs hvs)

/-! ## Steps that can be made again -/

/-- What `K` says, the writes with `W` keep. -/
def Keeps (apply : σ → ω → σ) (W : ω → Prop) (K : σ → Prop) : Prop := ∀ s w, W w → K s → K (apply s w)

/-- A step that can be made again: it returns only with `K`, changes nothing where `K` holds, and writes within `W`. -/
structure Redoable (p : Prog apply ε α) (K : σ → Prop) (W : ω → Prop) : Prop where
  recoverable : ∀ s, p.Recoverable s
  done : ∀ s, K s → p.Done s
  ends : ∀ s a, (p s).1 = .ok a → K (p.final s)
  emits : p.Emits W

variable {K K' : σ → Prop} {W' : ω → Prop}

theorem foldl_keeps (hkeep : Keeps apply W K) :
    ∀ (ws : List ω) (s : σ), (∀ w ∈ ws, W w) → K s → K (ws.foldl apply s)
  | [], _, _, hs => hs
  | w :: ws, s, hws, hs => foldl_keeps hkeep ws _ (fun w' hw' => hws w' (List.mem_cons_of_mem _ hw'))
      (hkeep s w (hws w List.mem_cons_self) hs)

theorem Emits.keeps {p : Prog apply ε α} (hp : p.Emits W) (hkeep : Keeps apply W K) (s : σ) (hs : K s) :
    K (p.final s) :=
  foldl_keeps hkeep _ s (hp s) hs

theorem Done.bind {p : Prog apply ε α} {q : Prog apply ε β} {s : σ} (hp : p.Done s) (hq : q.Done s) :
    (p >>= fun _ => q).Done s := by
  obtain ⟨⟨a, ha⟩, hfinal⟩ := hp
  obtain ⟨⟨b, hb⟩, hqfinal⟩ := hq
  refine ⟨⟨b, ?_⟩, ?_⟩
  · rw [bind_ok ha, hfinal]
    exact hb
  · rw [final_bind_ok ha, hfinal]
    exact hqfinal

theorem ok_of_bind {p : Prog apply ε α} {q : Prog apply ε β} {s : σ} {b : β} (h : ((p >>= fun _ => q) s).1 = .ok b) :
    ∃ a, (p s).1 = .ok a ∧ (q (p.final s)).1 = .ok b := by
  cases ha : (p s).1 with
  | error e =>
    rw [bind_error ha] at h
    cases h
  | ok a =>
    rw [bind_ok ha] at h
    exact ⟨a, rfl, h⟩

/-- **One step after another.** -/
theorem Redoable.bind {p : Prog apply ε α} {q : Prog apply ε β} (hp : Redoable p K W) (hq : Redoable q K' W')
    (hkeep : Keeps apply W' K) :
    Redoable (p >>= fun _ => q) (fun s => K s ∧ K' s) (fun w => W w ∨ W' w) where
  recoverable s := recoverable_bind (hp.recoverable s) (fun _ _ => hq.recoverable _) (fun a ha ws hws =>
    hp.done _ (foldl_keeps hkeep ws _ (fun w hw => hq.emits _ w (hws.subset hw)) (hp.ends s a ha)))
  done s hs := (hp.done s hs.1).bind (hq.done s hs.2)
  ends s b hb := by
    obtain ⟨a, ha, hb⟩ := ok_of_bind hb
    rw [final_bind_ok ha]
    exact ⟨hq.emits.keeps hkeep _ (hp.ends s a ha), hq.ends _ b hb⟩
  emits := Emits.bind (fun s w hw => Or.inl (hp.emits s w hw)) (fun _ s w hw => Or.inr (hq.emits s w hw))

theorem Redoable.mono {p : Prog apply ε α} (hp : Redoable p K W) (hK : ∀ s, K' s ↔ K s) (hW : ∀ w, W w → W' w) :
    Redoable p K' W' where
  recoverable := hp.recoverable
  done s hs := hp.done s ((hK s).1 hs)
  ends s a ha := (hK _).2 (hp.ends s a ha)
  emits s w hw := hW w (hp.emits s w hw)

/-- A step without writes that returns exactly where `K` holds. -/
theorem redoable_of_no_writes {p : Prog apply ε α} (hno : ∀ s, (p s).2 = []) (hK : ∀ s, (∃ a, (p s).1 = .ok a) ↔ K s) :
    Redoable p K W where
  recoverable s := recoverable_of_no_writes (hno s)
  done s hs := ⟨(hK s).2 hs, by rw [final, hno s]; rfl⟩
  ends s a ha := by
    rw [final, hno s]
    exact (hK s).1 ⟨a, ha⟩
  emits s w hw := by
    rw [hno s] at hw
    cases hw

/-- A step whose answer is not used. -/
theorem Redoable.discard {p : Prog apply ε α} (hp : Redoable p K W) :
    Redoable (p >>= fun _ => (pure () : Prog apply ε Unit)) K W := by
  have hpure : Redoable (pure () : Prog apply ε Unit) (fun _ => True) (fun _ => False) :=
    redoable_of_no_writes (fun _ => rfl) (fun _ => iff_of_true ⟨(), rfl⟩ trivial)
  refine (hp.bind hpure (fun _ _ h => h.elim)).mono (fun s => (iff_of_eq (and_true (K s))).symm) (fun w hw => ?_)
  rcases hw with hw | hw
  · exact hw
  · exact hw.elim

/-- A step whose stops leave either what was there or all that the step leaves. -/
theorem recoverable_of_stops {p : Prog apply ε α} {s : σ} (hdone : ∀ c, K c → p.Done c)
    (hstops : ∀ ws, ws <+: (p s).2 → ws.foldl apply s = s ∨
      (∃ a, (p s).1 = .ok a) ∧ K (p.final s) ∧ ws.foldl apply s = p.final s) : p.Recoverable s := by
  intro ws hws
  rcases hstops ws hws with h | ⟨⟨a, ha⟩, hK, h⟩
  · rw [h]
    exact ⟨rfl, rfl⟩
  · obtain ⟨⟨a', ha'⟩, hfinal⟩ := hdone _ hK
    rw [h]
    exact ⟨by rw [ha, ha']; rfl, hfinal⟩

/-- A step of one write, which either is refused or leaves `K`. -/
theorem redoable_of_write {p : Prog apply ε α} {w : ω} (hw : ∀ s, (p s).2 = [w])
    (hdone : ∀ s, K s → (∃ a, (p s).1 = .ok a) ∧ apply s w = s) (hends : ∀ s a, (p s).1 = .ok a → K (apply s w))
    (hrefused : ∀ s e, (p s).1 = .error e → apply s w = s) : Redoable p K (· = w) := by
  have hfinal : ∀ s, p.final s = apply s w := fun s => by rw [final, hw s]; rfl
  have hdone' : ∀ s, K s → p.Done s := fun s hs => ⟨(hdone s hs).1, by rw [hfinal]; exact (hdone s hs).2⟩
  refine ⟨fun s => recoverable_of_stops hdone' (fun ws hws => ?_), hdone', fun s a ha => ?_, fun s w' hw' => ?_⟩
  · rw [hw s] at hws
    rcases List.prefix_cons_iff.1 hws with rfl | ⟨ws', rfl, hws'⟩
    · exact Or.inl rfl
    · rw [List.prefix_nil.1 hws', hfinal]
      cases hp : (p s).1 with
      | ok a => exact Or.inr ⟨⟨a, rfl⟩, hends s a hp, rfl⟩
      | error e => exact Or.inl (hrefused s e hp)
  · rw [hfinal]
    exact hends s a ha
  · rw [hw s] at hw'
    exact List.mem_singleton.1 hw'

/-- **A loop over steps**: what a step leaves, the writes of the later steps keep. -/
theorem redoable_forEach {ι : Type} {run : ι → Prog apply ε α} {L : ι → σ → Prop} {V : ι → ω → Prop} :
    ∀ (is : List ι), (∀ i ∈ is, Redoable (run i) (L i) (V i)) → is.Pairwise (fun i j => Keeps apply (V j) (L i)) →
      Redoable (forEach (is.map run)) (fun s => ∀ i ∈ is, L i s) (fun w => ∃ i ∈ is, V i w)
  | [], _, _ => redoable_of_no_writes (fun _ => rfl)
      (fun s => iff_of_true ⟨(), rfl⟩ (fun i hi => absurd hi List.not_mem_nil))
  | i :: is, hrun, hpair => by
    rw [List.pairwise_cons] at hpair
    have ih := redoable_forEach is (fun j hj => hrun j (List.mem_cons_of_mem _ hj)) hpair.2
    refine ((hrun i List.mem_cons_self).bind ih ?_).mono (fun s => by simp) (fun w hw => ?_)
    · rintro s w ⟨j, hj, hw⟩ hs
      exact hpair.1 j hj s w hw hs
    · rcases hw with hw | ⟨j, hj, hw⟩
      · exact ⟨i, List.mem_cons_self, hw⟩
      · exact ⟨j, List.mem_cons_of_mem _ hj, hw⟩

/-- A loop that returns, each of whose steps returns only where its work is done, found all of it done. -/
theorem forEach_holds {ι : Type} {run : ι → Prog apply ε α} {L : ι → σ → Prop} {s : σ} :
    ∀ (is : List ι), (∀ i ∈ is, L i s → (run i).Done s) → (∀ i ∈ is, ∀ a, (run i s).1 = .ok a → L i s) →
      ∀ u, (forEach (is.map run) s).1 = .ok u → ∀ i ∈ is, L i s
  | [], _, _, _, _, _, hi => absurd hi List.not_mem_nil
  | i :: is, hdone, hL, u, hok, j, hj => by
    obtain ⟨a, ha, hrest⟩ := ok_of_bind (show ((run i >>= fun _ => forEach (is.map run)) s).1 = .ok u from hok)
    have hi := hL i List.mem_cons_self a ha
    rw [(hdone i List.mem_cons_self hi).2] at hrest
    rcases List.mem_cons.1 hj with rfl | hj
    · exact hi
    · exact forEach_holds is (fun i hi => hdone i (List.mem_cons_of_mem _ hi))
        (fun i hi => hL i (List.mem_cons_of_mem _ hi)) u hrest j hj

/-! ## Programs in a row -/

theorem bind_assoc {γ : Type} (p : Prog apply ε α) (next : α → Prog apply ε β) (next' : β → Prog apply ε γ) :
    p >>= next >>= next' = p >>= fun a => next a >>= next' := by
  funext s
  cases ha : (p s).1 with
  | error e => rw [bind_error ha, bind_error (e := e) (by rw [bind_error ha]), bind_error ha]
  | ok a =>
    cases hb : (next a (p.final s)).1 with
    | error e =>
      rw [bind_error (e := e) (by rw [bind_ok ha, hb]), bind_ok ha, bind_ok ha, bind_error hb, hb]
    | ok b =>
      rw [bind_ok (a := b) (by rw [bind_ok ha, hb]), bind_ok ha, bind_ok ha, bind_ok hb, final_bind_ok ha,
        List.append_assoc]

theorem pure_bind (a : α) (next : α → Prog apply ε β) : (pure a : Prog apply ε α) >>= next = next a := rfl

theorem forEach_append (ps qs : List (Prog apply ε α)) :
    forEach (ps ++ qs) = (forEach ps >>= fun _ => forEach qs : Prog apply ε Unit) := by
  induction ps with
  | nil => rfl
  | cons p ps ih =>
    show (p >>= fun _ => forEach (ps ++ qs)) = (p >>= fun _ => forEach ps) >>= fun _ => forEach qs
    rw [ih, bind_assoc]

/-! ## Programs over less -/

/-- `f` forgets a part of the state, and the program over the rest does what the program does. -/
def Mirrors {σ' ω' : Type} {apply' : σ' → ω' → σ'} (f : σ → σ') (g : ω → ω') (p : Prog apply ε α)
    (p' : Prog apply' ε α) : Prop :=
  ∀ s, p' (f s) = ((p s).1, (p s).2.map g)

section
variable {σ' ω' : Type} {apply' : σ' → ω' → σ'} {f : σ → σ'} {g : ω → ω'}

theorem foldl_mirror (hf : ∀ s w, f (apply s w) = apply' (f s) (g w)) :
    ∀ (ws : List ω) (s : σ), f (ws.foldl apply s) = (ws.map g).foldl apply' (f s)
  | [], _ => rfl
  | w :: ws, s => by
    rw [List.foldl_cons, foldl_mirror hf ws, hf, List.map_cons, List.foldl_cons]

theorem Mirrors.final {p : Prog apply ε α} {p' : Prog apply' ε α} (h : Mirrors f g p p')
    (hf : ∀ s w, f (apply s w) = apply' (f s) (g w)) (s : σ) : p'.final (f s) = f (p.final s) := by
  unfold Prog.final
  rw [h s, foldl_mirror hf]

theorem mirrors_pure (a : α) : Mirrors f g (pure a : Prog apply ε α) (pure a : Prog apply' ε α) := fun _ => rfl

theorem mirrors_raise (e : ε) : Mirrors f g (raise e : Prog apply ε α) (raise e : Prog apply' ε α) := fun _ => rfl

theorem mirrors_look {look₁ : σ → α} {look₂ : σ' → α} (h : ∀ s, look₂ (f s) = look₁ s) :
    Mirrors f g (look look₁ : Prog apply ε α) (look look₂ : Prog apply' ε α) := fun s => by
  show (Except.ok (look₂ (f s)), []) = _
  rw [h]
  rfl

theorem mirrors_perform {reply₁ : σ → ω → α} {reply₂ : σ' → ω' → α} (h : ∀ s w, reply₂ (f s) (g w) = reply₁ s w)
    (w : ω) : Mirrors f g (perform reply₁ w : Prog apply ε α) (perform reply₂ (g w) : Prog apply' ε α) := fun s => by
  show (Except.ok (reply₂ (f s) (g w)), [g w]) = _
  rw [h]
  rfl

theorem Mirrors.bind {p : Prog apply ε α} {p' : Prog apply' ε α} {next : α → Prog apply ε β}
    {next' : α → Prog apply' ε β} (hf : ∀ s w, f (apply s w) = apply' (f s) (g w)) (hp : Mirrors f g p p')
    (hnext : ∀ a, Mirrors f g (next a) (next' a)) : Mirrors f g (p >>= next) (p' >>= next') := fun s => by
  cases ha : (p s).1 with
  | error e =>
    have ha' : (p' (f s)).1 = .error e := by rw [hp s, ha]
    rw [bind_error ha, bind_error ha', hp s]
  | ok a =>
    have ha' : (p' (f s)).1 = .ok a := by rw [hp s, ha]
    rw [bind_ok ha, bind_ok ha', hp.final hf s, hnext a (p.final s), hp s, List.map_append]

theorem mirrors_forEach {ι : Type} {run : ι → Prog apply ε α} {run' : ι → Prog apply' ε α}
    (hf : ∀ s w, f (apply s w) = apply' (f s) (g w)) :
    ∀ (is : List ι), (∀ i ∈ is, Mirrors f g (run i) (run' i)) →
      Mirrors f g (forEach (is.map run)) (forEach (is.map run'))
  | [], _ => mirrors_pure ()
  | i :: is, h => Mirrors.bind hf (h i List.mem_cons_self)
      (fun _ => mirrors_forEach hf is (fun j hj => h j (List.mem_cons_of_mem _ hj)))

end

end Prog

end Restart
