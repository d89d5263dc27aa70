import ContractLens.Node.Query
import ContractLens.Proofs.Except

/-!
# Calls and results of queries

What the calls and the result of an activity are, given those of its parts. An activity fails as
soon as a part of it fails.

* `result_bind`: the results of a sequence are sequenced themselves.
* `result_ask`: a question has the node's reply as its result.
* `Runs.bind`, `Runs.bind_error`: the calls of a sequence, whether its first part fails or not.
* `Spares.bind`: a sequence asks less if its parts do.
-/

namespace ContractLens

namespace Query

variable {ε ε' α β : Type}

@[simp] theorem result_pure (a : α) (node : Node) :
    ((pure a : Query ε α).run node).result = .ok a := rfl

@[simp] theorem result_answer (a : α) (node : Node) :
    ((answer a : Query ε α).run node).result = .ok a := rfl

theorem result_bind (q : Query ε α) (f : α → Query ε β) (node : Node) :
    ((q >>= f).run node).result = (q.run node).result >>= fun a => ((f a).run node).result := by
  change (andThen q f node).result = _
  unfold andThen run
  cases h : (q node).result <;> simp only [h] <;> rfl

@[simp] theorem result_note (n : Notice) (node : Node) :
    ((note n : Query ε Unit).run node).result = .ok () := rfl

@[simp] theorem result_ask (call : NodeCall) (reply : Node → Except ε α) (node : Node) :
    ((ask call reply).run node).result = reply node := rfl

/-! ## Calls and results -/

/-- An activity makes these calls, in order, and has this result. -/
def Runs (q : Query ε α) (node : Node) (calls : List NodeCall) (result : Except ε α) : Prop :=
  (q.run node).calls = calls ∧ (q.run node).result = result

variable {q : Query ε α} {node : Node} {calls : List NodeCall}

theorem runs_pure (a : α) (node : Node) : (pure a : Query ε α).Runs node [] (.ok a) := ⟨rfl, rfl⟩

theorem runs_fail (e : ε) (node : Node) : (fail e : Query ε α).Runs node [] (.error e) := ⟨rfl, rfl⟩

theorem runs_note (n : Notice) (node : Node) : (note n : Query ε Unit).Runs node [] (.ok ()) :=
  ⟨rfl, rfl⟩

theorem runs_ofExcept (r : Except ε α) (node : Node) : (ofExcept r).Runs node [] r := ⟨rfl, rfl⟩

theorem runs_ask (call : NodeCall) (reply : Node → Except ε α) (node : Node) :
    (ask call reply).Runs node [call] (reply node) := ⟨rfl, rfl⟩

/-- The calls of a sequence are those of its parts. -/
theorem Runs.bind {f : α → Query ε β} {a : α} {more : List NodeCall} {result : Except ε β}
    (hq : q.Runs node calls (.ok a)) (hf : (f a).Runs node more result) :
    (q >>= f).Runs node (calls ++ more) result := by
  obtain ⟨hcalls, hresult⟩ := hq
  obtain ⟨hmore, hf⟩ := hf
  constructor
  · change (andThen q f node).calls = _
    unfold andThen
    rw [run] at hresult hcalls hmore
    simp only [hresult, hcalls, hmore]
  · rw [result_bind, hresult, ok_bind, hf]

/-- A second part that asks nothing adds no calls. -/
theorem Runs.bind_quiet {f : α → Query ε β} {a : α} {result : Except ε β}
    (hq : q.Runs node calls (.ok a)) (hf : (f a).Runs node [] result) :
    (q >>= f).Runs node calls result := by
  have h := hq.bind hf
  rwa [List.append_nil] at h

/-- After a first error nothing more is asked. -/
theorem Runs.bind_error {f : α → Query ε β} {e : ε} (hq : q.Runs node calls (.error e)) :
    (q >>= f).Runs node calls (.error e) := by
  obtain ⟨hcalls, hresult⟩ := hq
  constructor
  · change (andThen q f node).calls = _
    unfold andThen
    rw [run] at hresult hcalls
    simp only [hresult, hcalls]
  · rw [result_bind, hresult, error_bind]

theorem Runs.attempt (ε' : Type) {result : Except ε α} (hq : q.Runs node calls result) :
    (attempt q : Query ε' (Except ε α)).Runs node calls (.ok result) :=
  ⟨hq.1, congrArg Except.ok hq.2⟩

theorem Runs.mapError {result : Except ε α} (hq : q.Runs node calls result) (f : ε → ε') :
    (q.mapError f).Runs node calls (result.mapError f) :=
  ⟨hq.1, congrArg (Except.mapError f) hq.2⟩

/-! ## Asking less -/

/-- An activity has the same result as another one, and of the calls of that one it makes some or
    all, in the same order. -/
def Spares (q q' : Query ε α) (node : Node) : Prop :=
  (q.run node).result = (q'.run node).result ∧ ((q.run node).calls).Sublist (q'.run node).calls

theorem spares_refl (q : Query ε α) (node : Node) : q.Spares q node := ⟨rfl, List.Sublist.refl _⟩

/-- Whoever knows the answer need not ask. -/
theorem spares_answer {a : α} (h : (q.run node).result = .ok a) : (answer a).Spares q node :=
  ⟨h.symm, List.nil_sublist _⟩

theorem Spares.bind {q' : Query ε α} {f f' : α → Query ε β} (hq : q.Spares q' node)
    (hf : ∀ a, (q'.run node).result = .ok a → (f a).Spares (f' a) node) :
    (q >>= f).Spares (q' >>= f') node := by
  obtain ⟨hresult, hcalls⟩ := hq
  cases h : (q'.run node).result with
  | error e =>
    have hrun : q.Runs node _ (.error e) := ⟨rfl, hresult.trans h⟩
    have hrun' : q'.Runs node _ (.error e) := ⟨rfl, h⟩
    obtain ⟨hcalls₁, hresult₁⟩ := hrun.bind_error (f := f)
    obtain ⟨hcalls₂, hresult₂⟩ := hrun'.bind_error (f := f')
    exact ⟨hresult₁.trans hresult₂.symm, by rwa [hcalls₁, hcalls₂]⟩
  | ok a =>
    have hrun : q.Runs node _ (.ok a) := ⟨rfl, hresult.trans h⟩
    have hrun' : q'.Runs node _ (.ok a) := ⟨rfl, h⟩
    obtain ⟨hsame, hmore⟩ := hf a h
    obtain ⟨hcalls₁, hresult₁⟩ := hrun.bind (f := f) ⟨rfl, rfl⟩
    obtain ⟨hcalls₂, hresult₂⟩ := hrun'.bind (f := f') ⟨rfl, rfl⟩
    refine ⟨by rw [hresult₁, hresult₂, hsame], ?_⟩
    rw [hcalls₁, hcalls₂]
    exact hcalls.append hmore

end Query

end ContractLens
