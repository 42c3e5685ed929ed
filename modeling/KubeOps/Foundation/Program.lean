import Mathlib.Data.List.Basic

/-! Programs that may raise and that leave a trace. The trace is an append-only
log together with the number of clock readings so far; an exception keeps the
trace reached when it was raised. Triples speak about the log only, so that
clock readings and the answers of an environment are arbitrary values. -/
namespace KubeOps.Foundation

structure Trace (η : Type) where
  log : List η
  ticks : Nat

def Trace.start (η : Type) : Trace η := ⟨[], 0⟩

abbrev Program (ε η α : Type) := ExceptT ε (StateM (Trace η)) α

namespace Program

variable {ε η α β : Type}

def exec (program : Program ε η α) (trace : Trace η) : Except ε α × Trace η :=
  program.run.run trace

def raise (error : ε) : Program ε η α := ExceptT.mk (pure (.error error))

def attempt (result : Except ε α) : Program ε η α := ExceptT.mk (pure result)

/-- An answer of the environment, which may depend on everything done so far. -/
def observe (answer : Trace η → α) : Program ε η α := ExceptT.lift (fun trace => (answer trace, trace))

def consult (answer : Trace η → Except ε α) : Program ε η α := fun trace => (answer trace, trace)

def record (entry : η) : Program ε η Unit :=
  ExceptT.lift (fun trace => ((), ⟨trace.log ++ [entry], trace.ticks⟩))

def tick (clock : Nat → α) : Program ε η α :=
  ExceptT.lift (fun trace => (clock trace.ticks, ⟨trace.log, trace.ticks + 1⟩))

@[simp] theorem exec_pure (value : α) (trace : Trace η) :
    (pure value : Program ε η α).exec trace = (.ok value, trace) := rfl

@[simp] theorem exec_raise (error : ε) (trace : Trace η) :
    (raise error : Program ε η α).exec trace = (.error error, trace) := rfl

@[simp] theorem exec_attempt (result : Except ε α) (trace : Trace η) :
    (attempt result).exec trace = (result, trace) := rfl

@[simp] theorem exec_observe (answer : Trace η → α) (trace : Trace η) :
    (observe answer : Program ε η α).exec trace = (.ok (answer trace), trace) := rfl

@[simp] theorem exec_consult (answer : Trace η → Except ε α) (trace : Trace η) :
    (consult answer).exec trace = (answer trace, trace) := rfl

@[simp] theorem exec_record (entry : η) (trace : Trace η) :
    (record entry : Program ε η Unit).exec trace =
      (.ok (), ⟨trace.log ++ [entry], trace.ticks⟩) := rfl

@[simp] theorem exec_tick (clock : Nat → α) (trace : Trace η) :
    (tick clock : Program ε η α).exec trace =
      (.ok (clock trace.ticks), ⟨trace.log, trace.ticks + 1⟩) := rfl

theorem exec_bind (program : Program ε η α) (next : α → Program ε η β) (trace : Trace η) :
    (program >>= next).exec trace =
      match program.exec trace with
      | (.ok value, reached) => (next value).exec reached
      | (.error error, reached) => (.error error, reached) := by
  change (ExceptT.bind program next).run.run trace = _
  unfold exec ExceptT.bind
  simp only [ExceptT.run, ExceptT.mk, bind, StateT.bind, StateT.run]
  cases program trace with
  | mk result reached => cases result <;> rfl

theorem exec_bind_ok {program : Program ε η α} {next : α → Program ε η β} {trace reached : Trace η}
    {value : β} (h : (program >>= next).exec trace = (.ok value, reached)) :
    ∃ first between, program.exec trace = (.ok first, between) ∧
      (next first).exec between = (.ok value, reached) := by
  rw [exec_bind] at h
  rcases hexec : program.exec trace with ⟨result, between⟩
  rw [hexec] at h
  cases result with
  | ok first => exact ⟨first, between, rfl, h⟩
  | error error => cases h

def returns (program : Program ε η α) (trace : Trace η) (check : α → Bool) : Bool :=
  match (program.exec trace).1 with
  | .ok value => check value
  | .error _ => false

theorem exists_of_returns {program : Program ε η α} {trace : Trace η} {check : α → Bool}
    (h : program.returns trace check = true) :
    ∃ value reached, program.exec trace = (.ok value, reached) ∧ check value = true := by
  unfold returns at h
  rcases hexec : program.exec trace with ⟨result, reached⟩
  cases result with
  | ok value => exact ⟨value, reached, rfl, by simpa [hexec] using h⟩
  | error error => simp [hexec] at h

end Program

/-- Every outcome of `program` from a log satisfying `pre` satisfies `post`, or
`failed` when an exception leaves it. -/
def Triple {ε η α : Type} (pre : List η → Prop) (program : Program ε η α)
    (post : α → List η → Prop) (failed : ε → List η → Prop) : Prop :=
  ∀ trace : Trace η, pre trace.log →
    match program.exec trace with
    | (.ok value, reached) => post value reached.log
    | (.error error, reached) => failed error reached.log

namespace Triple

variable {ε η α β : Type} {pre : List η → Prop} {post : α → List η → Prop}
  {failed : ε → List η → Prop}

theorem pure {value : α} (h : ∀ log, pre log → post value log) :
    Triple pre (Pure.pure value) post failed :=
  fun trace hpre => h trace.log hpre

theorem raise {error : ε} (h : ∀ log, pre log → failed error log) :
    Triple pre (Program.raise error) post failed :=
  fun trace hpre => h trace.log hpre

theorem attempt {result : Except ε α}
    (hok : ∀ value, result = .ok value → ∀ log, pre log → post value log)
    (herror : ∀ error, result = .error error → ∀ log, pre log → failed error log) :
    Triple pre (Program.attempt result) post failed := by
  intro trace hpre
  rw [Program.exec_attempt]
  cases result with
  | ok value => exact hok value rfl _ hpre
  | error error => exact herror error rfl _ hpre

theorem observe {answer : Trace η → α} (h : ∀ value log, pre log → post value log) :
    Triple pre (Program.observe answer) post failed :=
  fun trace hpre => h (answer trace) trace.log hpre

theorem consult {answer : Trace η → Except ε α} (hok : ∀ value log, pre log → post value log)
    (herror : ∀ error log, pre log → failed error log) :
    Triple pre (Program.consult answer) post failed := by
  intro trace hpre
  rw [Program.exec_consult]
  cases answer trace with
  | ok value => exact hok value _ hpre
  | error error => exact herror error _ hpre

theorem record {entry : η} {post : Unit → List η → Prop}
    (h : ∀ log, pre log → post () (log ++ [entry])) :
    Triple pre (Program.record entry) post failed :=
  fun trace hpre => h trace.log hpre

theorem tick {clock : Nat → α} (h : ∀ value log, pre log → post value log) :
    Triple pre (Program.tick clock) post failed :=
  fun trace hpre => h (clock trace.ticks) trace.log hpre

theorem bind {program : Program ε η β} {next : β → Program ε η α} {m : β → List η → Prop}
    (hprogram : Triple pre program m failed)
    (hnext : ∀ value, Triple (m value) (next value) post failed) :
    Triple pre (program >>= next) post failed := by
  intro trace hpre
  have hfirst := hprogram trace hpre
  rw [Program.exec_bind]
  cases hexec : program.exec trace with
  | mk result reached =>
    rw [hexec] at hfirst
    cases result with
    | ok value => exact hnext value reached hfirst
    | error error => exact hfirst

theorem weaken {strong : List η → Prop} {program : Program ε η α}
    {narrow : α → List η → Prop} {fatal : ε → List η → Prop}
    (h : Triple strong program narrow fatal)
    (hpre : ∀ log, pre log → strong log)
    (hpost : ∀ value log, narrow value log → post value log)
    (hfailed : ∀ error log, fatal error log → failed error log) :
    Triple pre program post failed := by
  intro trace hstart
  have hout := h trace (hpre _ hstart)
  cases hexec : program.exec trace with
  | mk result reached =>
    rw [hexec] at hout
    cases result with
    | ok value => exact hpost _ _ hout
    | error error => exact hfailed _ _ hout

theorem assuming {fact : Prop} {program : Program ε η α} (hfact : ∀ log, pre log → fact)
    (h : fact → Triple pre program post failed) : Triple pre program post failed :=
  fun trace hpre => h (hfact trace.log hpre) trace hpre

theorem bind_tick {clock : Nat → β} {next : β → Program ε η α}
    (h : ∀ value, Triple pre (next value) post failed) :
    Triple pre (Program.tick clock >>= next) post failed :=
  bind (m := fun _ => pre) (tick fun _ _ hpre => hpre) h

theorem bind_consult {answer : Trace η → Except ε β} {next : β → Program ε η α}
    (hok : ∀ value, Triple pre (next value) post failed)
    (herror : ∀ error log, pre log → failed error log) :
    Triple pre (Program.consult answer >>= next) post failed :=
  bind (m := fun _ => pre) (consult (fun _ _ hpre => hpre) herror) hok

theorem bind_answer {answer : Trace η → Except ε β} {next : β → Program ε η α}
    (hok : ∀ value, Triple pre (next value) post failed)
    (herror : ∀ trace error, answer trace = .error error → pre trace.log → failed error trace.log) :
    Triple pre (Program.consult answer >>= next) post failed := by
  intro trace hpre
  rw [Program.exec_bind, Program.exec_consult]
  cases hanswer : answer trace with
  | ok value => exact hok value trace hpre
  | error error => exact herror trace error hanswer hpre

theorem bind_attempt {result : Except ε β} {next : β → Program ε η α}
    (hok : ∀ value, result = .ok value → Triple pre (next value) post failed)
    (herror : ∀ error, result = .error error → ∀ log, pre log → failed error log) :
    Triple pre (Program.attempt result >>= next) post failed := by
  refine bind (m := fun value log => result = .ok value ∧ pre log)
    (attempt (fun value h log hpre => ⟨h, hpre⟩) herror) ?_
  intro value trace hmid
  exact hok value hmid.1 trace hmid.2

theorem bind_record {entry : η} {next : Unit → Program ε η α} {m : List η → Prop}
    (hentry : ∀ log, pre log → m (log ++ [entry]))
    (h : Triple m (next ()) post failed) :
    Triple pre (Program.record entry >>= next) post failed :=
  bind (m := fun _ => m) (record hentry) fun _ => h

theorem ite {condition : Prop} [Decidable condition] {left right : Program ε η α}
    (hleft : condition → Triple pre left post failed)
    (hright : ¬ condition → Triple pre right post failed) :
    Triple pre (if condition then left else right) post failed := by
  by_cases h : condition
  · rw [if_pos h]
    exact hleft h
  · rw [if_neg h]
    exact hright h

/-- A comprehension that runs a program on each element of a list: the
invariant relates the elements done to the results collected. -/
theorem mapM {items : List β} {body : β → Program ε η α}
    {i : List β → List α → List η → Prop} {f : ε → List η → Prop}
    (hbody : ∀ done item results, done ++ [item] <+: items →
      Triple (i done results) (body item) (fun value => i (done ++ [item]) (results ++ [value])) f) :
    Triple (i [] []) (items.mapM body) (fun results => i items results) f := by
  suffices h : ∀ rest done results, done ++ rest = items →
      Triple (i done results) (rest.mapM body) (fun tail => i items (results ++ tail)) f by
    simpa using h items [] [] rfl
  intro rest
  induction rest with
  | nil =>
    intro done results heq
    rw [List.append_nil] at heq
    rw [List.mapM_nil]
    exact Triple.pure fun log hinv => by simpa [heq] using hinv
  | cons item rest ih =>
    intro done results heq
    rw [List.mapM_cons]
    refine bind (hbody done item results ⟨rest, by simpa using heq⟩) fun value => ?_
    refine bind (ih (done ++ [item]) (results ++ [value]) (by simpa using heq)) fun tail => ?_
    exact Triple.pure fun log hinv => by simpa using hinv

/-- A loop over a list that threads a value: the invariant relates the elements
done to the value reached. -/
theorem foldlM {items : List β} {body : α → β → Program ε η α} {start : α}
    {i : List β → α → List η → Prop} {f : ε → List η → Prop}
    (hbody : ∀ done item value, done ++ [item] <+: items →
      Triple (i done value) (body value item) (i (done ++ [item])) f) :
    Triple (i [] start) (items.foldlM body start) (i items) f := by
  suffices h : ∀ rest done value, done ++ rest = items →
      Triple (i done value) (rest.foldlM body value) (i items) f from
    h items [] start rfl
  intro rest
  induction rest with
  | nil =>
    intro done value heq
    rw [List.append_nil] at heq
    rw [List.foldlM_nil]
    exact Triple.pure fun log hinv => heq ▸ hinv
  | cons item rest ih =>
    intro done value heq
    rw [List.foldlM_cons]
    exact bind (hbody done item value ⟨rest, by simpa using heq⟩) fun next =>
      ih (done ++ [item]) next (by simpa using heq)

theorem and {also : List η → Prop} {program : Program ε η α} {other : α → List η → Prop}
    {fatal : ε → List η → Prop} (h : Triple pre program post failed)
    (hother : Triple also program other fatal) :
    Triple (fun log => pre log ∧ also log) program (fun value log => post value log ∧ other value log)
      (fun error log => failed error log ∧ fatal error log) := by
  intro trace hpre
  have hleft := h trace hpre.1
  have hright := hother trace hpre.2
  rcases hexec : program.exec trace with ⟨result, reached⟩
  rw [hexec] at hleft hright
  cases result with
  | ok value => exact ⟨hleft, hright⟩
  | error error => exact ⟨hleft, hright⟩

end Triple

/-- Whatever the log, a value that is returned satisfies `post`. -/
abbrev Returns {ε η α : Type} (program : Program ε η α) (post : α → Prop) : Prop :=
  Triple (fun _ => True) program (fun value _ => post value) fun _ _ => True

namespace Returns

variable {ε η α β : Type} {program : Program ε η α} {post : α → Prop}

theorem of_rule (h : Triple (fun _ => True) program (fun value _ => post value ∧ True) fun _ _ => True) :
    Returns program post :=
  Triple.weaken h (fun _ _ => trivial) (fun _ _ hpost => hpost.1) fun _ _ _ => trivial

theorem apply (h : Returns program post) {trace reached : Trace η} {value : α}
    (hexec : program.exec trace = (.ok value, reached)) : post value := by
  have hout := h trace trivial
  rw [hexec] at hout
  exact hout

theorem any (program : Program ε η α) : Returns program fun _ => True := by
  intro trace _
  rcases program.exec trace with ⟨result, reached⟩
  cases result <;> trivial

theorem pure {value : α} (h : post value) : Returns (Pure.pure value : Program ε η α) post :=
  Triple.pure fun _ _ => h

theorem raise (error : ε) : Returns (Program.raise error : Program ε η α) post :=
  Triple.raise fun _ _ => trivial

theorem consult {answer : Trace η → Except ε α} (h : ∀ trace value, answer trace = .ok value → post value) :
    Returns (Program.consult answer) post := by
  intro trace _
  rw [Program.exec_consult]
  cases hanswer : answer trace with
  | ok value => exact h trace value hanswer
  | error error => trivial

theorem attempt {result : Except ε α} (h : ∀ value, result = .ok value → post value) :
    Returns (Program.attempt result : Program ε η α) post :=
  Triple.attempt (fun value hvalue _ _ => h value hvalue) fun _ _ _ _ => trivial

theorem bind {first : Program ε η β} {next : β → Program ε η α} {m : β → Prop}
    (hfirst : Returns first m) (hnext : ∀ value, m value → Returns (next value) post) :
    Returns (first >>= next) post :=
  Triple.bind hfirst fun value trace h => hnext value h trace trivial

theorem bind_any {first : Program ε η β} {next : β → Program ε η α}
    (h : ∀ value, Returns (next value) post) : Returns (first >>= next) post :=
  bind (any first) fun value _ => h value

theorem ite {condition : Prop} [Decidable condition] {left right : Program ε η α}
    (hleft : condition → Returns left post) (hright : ¬ condition → Returns right post) :
    Returns (if condition then left else right) post := Triple.ite hleft hright

theorem mono {other : α → Prop} (h : Returns program post) (himp : ∀ value, post value → other value) :
    Returns program other :=
  Triple.weaken h (fun _ _ => trivial) (fun value _ => himp value) fun _ _ _ => trivial

end Returns

theorem except_bind_eq_ok {ε α β : Type} {first : Except ε α} {next : α → Except ε β} {value : β}
    (h : first >>= next = .ok value) : ∃ found, first = .ok found ∧ next found = .ok value := by
  cases first with
  | error error => cases h
  | ok found => exact ⟨found, rfl, h⟩

theorem except_map_eq_ok {ε α β : Type} {result : Except ε α} {f : α → β} {value : β}
    (h : result.map f = .ok value) : ∃ found, result = .ok found ∧ f found = value := by
  cases result with
  | error error => cases h
  | ok found => exact ⟨found, rfl, Except.ok.inj h⟩

theorem except_toOption_eq_some {ε α : Type} {result : Except ε α} {value : α} :
    result.toOption = some value ↔ result = .ok value := by
  cases result with
  | error error => exact ⟨nofun, nofun⟩
  | ok found => exact ⟨fun h => congrArg _ (Option.some.inj h), fun h => congrArg _ (Except.ok.inj h)⟩

theorem exists_ok_of_toOption {α ε β : Type} {result : Except ε α} {f : α → β} {value : β}
    (h : result.toOption.map f = some value) : ∃ found, result = .ok found ∧ f found = value := by
  obtain ⟨found, hfound, hvalue⟩ := Option.map_eq_some_iff.mp h
  exact ⟨found, except_toOption_eq_some.mp hfound, hvalue⟩

theorem exists_mapM_ok {ε α β : Type} {f : α → Except ε β} {items : List α}
    (h : ∀ item ∈ items, ∃ value, f item = .ok value) : ∃ values, items.mapM f = .ok values := by
  induction items with
  | nil => exact ⟨[], rfl⟩
  | cons item items ih =>
    rw [List.forall_mem_cons] at h
    obtain ⟨value, hvalue⟩ := h.1
    obtain ⟨values, hvalues⟩ := ih h.2
    refine ⟨value :: values, ?_⟩
    rw [List.mapM_cons, hvalue, hvalues]
    rfl

theorem mem_of_mapM {ε α β : Type} {f : α → Except ε β} {items : List α} {values : List β}
    (h : items.mapM f = .ok values) {value : β} (hvalue : value ∈ values) :
    ∃ item ∈ items, f item = .ok value := by
  induction items generalizing values with
  | nil =>
    obtain rfl : [] = values := Except.ok.inj h
    cases hvalue
  | cons item items ih =>
    rw [List.mapM_cons] at h
    obtain ⟨first, hfirst, h⟩ := except_bind_eq_ok h
    obtain ⟨rest, hrest, h⟩ := except_bind_eq_ok h
    obtain rfl := Except.ok.inj h
    rcases List.mem_cons.mp hvalue with rfl | hlater
    · exact ⟨item, List.mem_cons_self, hfirst⟩
    · obtain ⟨other, hmem, hother⟩ := ih hrest hlater
      exact ⟨other, List.mem_cons_of_mem _ hmem, hother⟩

theorem exists_mem_of_mapM {ε α β : Type} {f : α → Except ε β} {items : List α} {values : List β}
    (h : items.mapM f = .ok values) {item : α} (hmem : item ∈ items) :
    ∃ value ∈ values, f item = .ok value := by
  induction items generalizing values with
  | nil => cases hmem
  | cons first items ih =>
    rw [List.mapM_cons] at h
    obtain ⟨value, hvalue, h⟩ := except_bind_eq_ok h
    obtain ⟨rest, hrest, h⟩ := except_bind_eq_ok h
    obtain rfl := Except.ok.inj h
    rcases List.mem_cons.mp hmem with rfl | hlater
    · exact ⟨value, List.mem_cons_self, hvalue⟩
    · obtain ⟨found, hfound, hitem⟩ := ih hrest hlater
      exact ⟨found, List.mem_cons_of_mem _ hfound, hitem⟩

theorem map_eq_of_mapM {ε α β γ : Type} {f : α → Except ε β} {g : β → γ} {g' : α → γ} {items : List α}
    {values : List β} (h : items.mapM f = .ok values)
    (hkeeps : ∀ item value, f item = .ok value → g value = g' item) : values.map g = items.map g' := by
  induction items generalizing values with
  | nil =>
    obtain rfl : [] = values := Except.ok.inj h
    rfl
  | cons item items ih =>
    rw [List.mapM_cons] at h
    obtain ⟨first, hfirst, h⟩ := except_bind_eq_ok h
    obtain ⟨rest, hrest, h⟩ := except_bind_eq_ok h
    obtain rfl := Except.ok.inj h
    rw [List.map_cons, List.map_cons, ih hrest, hkeeps item first hfirst]

theorem mapM_eq_ok_iff {ε α β : Type} {f : α → Except ε β} {items : List α} {values : List β} :
    items.mapM f = .ok values ↔
      (∀ item ∈ items, ∃ value, f item = .ok value) ∧ values = items.filterMap fun item =>
        (f item).toOption := by
  induction items generalizing values with
  | nil =>
    constructor
    · intro h
      exact ⟨nofun, (Except.ok.inj h).symm⟩
    · intro h
      rw [h.2]
      rfl
  | cons item items ih =>
    rw [List.mapM_cons, List.forall_mem_cons]
    cases hitem : f item with
    | error error =>
      constructor
      · intro h
        cases h
      · rintro ⟨⟨⟨value, hvalue⟩, -⟩, -⟩
        cases hvalue
    | ok first =>
      rw [List.filterMap_cons, hitem]
      show (items.mapM f >>= fun rest => pure (first :: rest)) = .ok values ↔ _
      constructor
      · intro h
        obtain ⟨rest, hrest, h⟩ := except_bind_eq_ok h
        obtain ⟨hall, hvalues⟩ := ih.mp hrest
        refine ⟨⟨⟨first, rfl⟩, hall⟩, ?_⟩
        rw [← hvalues]
        exact (Except.ok.inj h).symm
      · rintro ⟨⟨-, hall⟩, hvalues⟩
        rw [ih.mpr ⟨hall, rfl⟩, hvalues]
        rfl

private theorem mem_of_filterAuxM {ε α : Type} {test : α → Except ε Bool} {items kept found : List α}
    (h : items.filterAuxM test kept = .ok found) {item : α} (hitem : item ∈ found) :
    item ∈ kept ∨ item ∈ items ∧ test item = .ok true := by
  induction items generalizing kept with
  | nil =>
    obtain rfl : kept = found := Except.ok.inj h
    exact .inl hitem
  | cons first rest ih =>
    obtain ⟨answer, htest, hrest⟩ := except_bind_eq_ok h
    rcases ih hrest with hkept | ⟨hlater, htrue⟩
    · cases answer with
      | false => exact .inl hkept
      | true =>
        rcases List.mem_cons.mp hkept with rfl | hkept
        · exact .inr ⟨List.mem_cons_self, htest⟩
        · exact .inl hkept
    · exact .inr ⟨List.mem_cons_of_mem _ hlater, htrue⟩

theorem mem_of_filterM {ε α : Type} {test : α → Except ε Bool} {items found : List α}
    (h : items.filterM test = .ok found) {item : α} (hitem : item ∈ found) :
    item ∈ items ∧ test item = .ok true := by
  obtain ⟨reversed, hall, hfound⟩ := except_bind_eq_ok h
  rw [← Except.ok.inj hfound, List.mem_reverse] at hitem
  rcases mem_of_filterAuxM hall hitem with hnone | hfound
  · cases hnone
  · exact hfound

theorem filterM_singleton {ε α : Type} {test : α → Except ε Bool} {item : α} {answer : Bool}
    (h : test item = .ok answer) : [item].filterM test = .ok (if answer then [item] else []) := by
  unfold List.filterM List.filterAuxM
  rw [h]
  cases answer <;> rfl

theorem exists_foldlM_ok {ε σ α : Type} {body : σ → α → Except ε σ} {items : List α}
    (h : ∀ item ∈ items, ∀ value, ∃ next, body value item = .ok next) (start : σ) :
    ∃ final, items.foldlM body start = .ok final := by
  induction items generalizing start with
  | nil => exact ⟨start, rfl⟩
  | cons item items ih =>
    rw [List.forall_mem_cons] at h
    obtain ⟨next, hnext⟩ := h.1 start
    rw [List.foldlM_cons, hnext]
    exact ih h.2 next

theorem foldlM_ok {ε σ α : Type} {body : σ → α → Except ε σ} {items : List α} {start final : σ}
    {p : σ → Prop} (h : items.foldlM body start = .ok final) (hstart : p start)
    (hstep : ∀ item ∈ items, ∀ value next, p value → body value item = .ok next → p next) :
    p final := by
  induction items generalizing start with
  | nil =>
    cases h
    exact hstart
  | cons item items ih =>
    rw [List.foldlM_cons] at h
    obtain ⟨next, hbody, h⟩ := except_bind_eq_ok h
    refine ih h (hstep item (List.mem_cons_self ..) start next hstart hbody) ?_
    exact fun later hmem => hstep later (List.mem_cons_of_mem _ hmem)

theorem foldlM_ok_prefix {ε α σ : Type} {body : σ → α → Except ε σ} {inv : List α → σ → Prop}
    {items : List α} {start reached : σ} (hstart : inv [] start)
    (hbody : ∀ done item rest state later, items = done ++ item :: rest → inv done state →
      body state item = .ok later → inv (done ++ [item]) later)
    (h : items.foldlM body start = .ok reached) : inv items reached := by
  suffices hall : ∀ done rest state, items = done ++ rest → inv done state →
      rest.foldlM body state = .ok reached → inv items reached from hall [] items start rfl hstart h
  intro done rest state heq hinv hrest
  induction rest generalizing done state with
  | nil =>
    obtain rfl := Except.ok.inj hrest
    rw [heq, List.append_nil]
    exact hinv
  | cons item rest ih =>
    obtain ⟨later, hlater, hrest⟩ := except_bind_eq_ok hrest
    apply ih (done ++ [item]) later (by simp [heq]) (hbody done item rest state later heq hinv hlater) hrest

theorem foldlM_ok_turn {ε σ α : Type} {body : σ → α → Except ε σ} {items : List α} {start final : σ}
    (h : items.foldlM body start = .ok final) {item : α} (hmem : item ∈ items) :
    ∃ value next, body value item = .ok next := by
  induction items generalizing start with
  | nil => cases hmem
  | cons first items ih =>
    rw [List.foldlM_cons] at h
    obtain ⟨next, hbody, h⟩ := except_bind_eq_ok h
    rcases List.mem_cons.mp hmem with rfl | hrest
    · exact ⟨start, next, hbody⟩
    · exact ih h hrest

theorem foldlM_ok_of_turn {ε σ α : Type} {body : σ → α → Except ε σ} {items : List α} {start final : σ}
    {p : σ → Prop} (h : items.foldlM body start = .ok final) {item : α} (hmem : item ∈ items)
    (hturn : ∀ value next, body value item = .ok next → p next)
    (hkept : ∀ other ∈ items, ∀ value next, p value → body value other = .ok next → p next) :
    p final := by
  induction items generalizing start with
  | nil => cases hmem
  | cons first items ih =>
    rw [List.foldlM_cons] at h
    obtain ⟨next, hbody, hlast⟩ := except_bind_eq_ok h
    have hrest : ∀ other ∈ items, ∀ value next, p value → body value other = .ok next → p next :=
      fun other hother => hkept other (List.mem_cons_of_mem _ hother)
    rcases List.mem_cons.mp hmem with rfl | hlater
    · exact foldlM_ok hlast (hturn start next hbody) hrest
    · exact ih hlast hlater hrest

end KubeOps.Foundation
