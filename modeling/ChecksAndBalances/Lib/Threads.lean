import ChecksAndBalances.Lib.History
import ChecksAndBalances.Lib.Program
import ChecksAndBalances.Lib.Reach
import ChecksAndBalances.Lib.Transaction
import Mathlib.Data.List.Basic
import Mathlib.Logic.Function.Basic

/-!
# Programs over one store

Any number of programs run over one store.  A call is a transaction on the store or a question to the
host; a step of the system commits or rejects one transaction or delivers one answer of the host, so
the calls of different programs interleave freely, and a program may stop between any two of them.
Whatever else happens to the store keeps what `view` reads.  The log keeps the committed
transactions, latest first, each with the past of its thread.
-/

namespace ChecksAndBalances.Lib.Threads

open Tx

variable {σ ε τ W Request Call : Type} {Result : Request → Type} {Answer : Call → Type}

/-! ## States and steps -/

/-- A thread: its request, the calls it has made with their answers, latest first, and what is left
of its program, unless a call of it was rejected. -/
structure Thread (Result : Request → Type) (Answer : Call → Type) where
  request : Request
  past : List (Sigma Answer)
  process : Option (Program Call Answer (Result request))

/-- A committed transaction. -/
structure Entry (σ W Request : Type) (Answer : Call → Type) where
  thread : W
  request : Request
  past : List (Sigma Answer)
  call : Call
  answer : Answer call
  before : σ
  after : σ

/-- The call with its answer. -/
def Entry.item (e : Entry σ W Request Answer) : Sigma Answer := ⟨e.call, e.answer⟩

/-- The store, the threads and the log. -/
structure State (σ W : Type) (Result : Request → Type) (Answer : Call → Type) where
  store : σ
  threads : W → Option (Thread Result Answer)
  log : List (Entry σ W Request Answer)

/-- What can happen next. -/
inductive Act (σ W Request : Type) (Answer : Call → Type) where
  | start (w : W) (request : Request)
  | store (w : W)
  | host (w : W) (answer : (call : Call) → Answer call)
  | elsewhere (store : σ)

section Step

variable [DecidableEq W] [DecidableEq τ]
  (program : (request : Request) → Program Call Answer (Result request))
  (exec : (call : Call) → Option (Tx σ ε (Answer call))) (view : σ → τ)

namespace State

variable (s : State σ W Result Answer)

/-- The state with another thread. -/
def put (w : W) (thread : Thread Result Answer) : State σ W Result Answer :=
  { s with threads := Function.update s.threads w (some thread) }

/-- The state after a committed transaction of a thread. -/
def append (e : Entry σ W Request Answer) (thread : Thread Result Answer) :
    State σ W Result Answer :=
  { s.put e.thread thread with store := e.after, log := e :: s.log }

/-- A transaction of a thread: a rejected one ends the thread. -/
def storeStep (w : W) (thread : Thread Result Answer) : Option (State σ W Result Answer) :=
  match thread.process with
  | some (.call call k) =>
    (exec call).map fun transaction =>
      match transaction s.store with
      | .ok (answer, store) =>
        s.append
          { thread := w, request := thread.request, past := thread.past, call, answer
            before := s.store, after := store }
          { thread with past := ⟨call, answer⟩ :: thread.past, process := some (k answer) }
      | .error _ => s.put w { thread with process := none }
  | _ => none

/-- An answer of the host arrives. -/
def hostStep (w : W) (answer : (call : Call) → Answer call) (thread : Thread Result Answer) :
    Option (State σ W Result Answer) :=
  match thread.process with
  | some (.call call k) =>
    if (exec call).isNone then
      some (s.put w
        { thread with past := ⟨call, answer call⟩ :: thread.past, process := some (k (answer call)) })
    else none
  | _ => none

/-- One step of the system; a thread is started once. -/
def step : Act σ W Request Answer → Option (State σ W Result Answer)
  | .start w request =>
    match s.threads w with
    | none => some (s.put w { request, past := [], process := some (program request) })
    | some _ => none
  | .store w => (s.threads w).bind (s.storeStep exec w)
  | .host w answer => (s.threads w).bind (s.hostStep exec w answer)
  | .elsewhere store => if view store = view s.store then some { s with store } else none

/-- No thread has been started. -/
structure Initial : Prop where
  threads : ∀ w, s.threads w = none
  log : s.log = []

end State

end Step

/-! ## Contracts -/

/-- What a program may call after which past, what comes back, and what it returns. -/
structure Contract (Result : Request → Type) (Answer : Call → Type) where
  allows : Request → List (Sigma Answer) → Call → Prop
  admits : (call : Call) → Answer call → Prop
  returns : (request : Request) → List (Sigma Answer) → Result request → Prop

/-- The protocol of a request: its phases are the pasts of the thread. -/
def Contract.protocol (K : Contract Result Answer) (request : Request) :
    Protocol (List (Sigma Answer)) Call Answer where
  allows := K.allows request
  admits _ := K.admits
  next past call answer := ⟨call, answer⟩ :: past

/-- The host answers as the contract admits. -/
def Act.Answers (K : Contract Result Answer) : Act σ W Request Answer → Prop
  | .host _ answer => ∀ call, K.admits call (answer call)
  | _ => True

/-- The transactions of a past. -/
def stored (exec : (call : Call) → Option (Tx σ ε (Answer call))) (past : List (Sigma Answer)) :
    List (Sigma Answer) :=
  past.filter fun item => (exec item.1).isSome

section Chronicle

variable [DecidableEq W] (exec : (call : Call) → Option (Tx σ ε (Answer call)))
  (K : Contract Result Answer)

/-- The transactions of a thread in a log. -/
def items (w : W) (log : List (Entry σ W Request Answer)) : List (Sigma Answer) :=
  (log.filter fun e => e.thread = w).map Entry.item

/-- The log since the first call of a thread. -/
def sinceFirst (w : W) (log : List (Entry σ W Request Answer)) : List (Entry σ W Request Answer) :=
  log.takeWhile fun e => !(e.thread = w && e.past.isEmpty)

/-- The transaction is allowed after the past of its thread, which is what the log before it says of
the thread. -/
structure Entry.Valid (earlier : List (Entry σ W Request Answer)) (e : Entry σ W Request Answer) :
    Prop where
  allowed : K.allows e.request e.past e.call
  admitted : ∀ item ∈ e.past, K.admits item.1 item.2
  commits : ∃ transaction, exec e.call = some transaction ∧
    Commits transaction e.before e.answer e.after
  own : items e.thread earlier = stored exec e.past
  request : ∀ e' ∈ earlier, e'.thread = e.thread → e'.request = e.request

/-- The log leads from the store `start` to the store `s`. -/
def Chronicle (view : σ → τ) (start : σ) : List (Entry σ W Request Answer) → σ → Prop
  | [], s => view s = view start
  | e :: earlier, s => view s = view e.after ∧ e.Valid exec K earlier ∧
    Chronicle view start earlier e.before

/-- What the log says of a thread. -/
structure Thread.Tracked (log : List (Entry σ W Request Answer)) (w : W)
    (thread : Thread Result Answer) : Prop where
  admitted : ∀ item ∈ thread.past, K.admits item.1 item.2
  own : items w log = stored exec thread.past
  request : ∀ e ∈ log, e.thread = w → e.request = thread.request
  follows : ∀ process, thread.process = some process →
    Follows (K.protocol thread.request) thread.past process (K.returns thread.request)

/-- The log leads to the store, and every thread is tracked by it. -/
structure State.Traced (view : σ → τ) (start : σ) (s : State σ W Result Answer) : Prop where
  chronicle : Chronicle exec K view start s.log s.store
  threads : ∀ w thread, s.threads w = some thread → thread.Tracked exec K s.log w
  unstarted : ∀ w, s.threads w = none → ∀ e ∈ s.log, e.thread ≠ w

variable {exec K} {view : σ → τ} {start : σ}

/-! ## The log of a thread -/

theorem items_cons_self (e : Entry σ W Request Answer) (log : List (Entry σ W Request Answer)) :
    items e.thread (e :: log) = e.item :: items e.thread log := by
  simp [items]

theorem items_cons_of_ne {e : Entry σ W Request Answer} {w : W} (h : e.thread ≠ w)
    (log : List (Entry σ W Request Answer)) : items w (e :: log) = items w log := by
  simp [items, h]

theorem items_eq_nil {w : W} {log : List (Entry σ W Request Answer)}
    (h : ∀ e ∈ log, e.thread ≠ w) : items w log = [] := by
  rw [items, List.map_eq_nil_iff, List.filter_eq_nil_iff]
  simpa using h

/-- The latest transaction of a thread stands in the log where its items say. -/
theorem exists_entry_of_items {w : W} {log : List (Entry σ W Request Answer)} {item : Sigma Answer}
    {rest : List (Sigma Answer)} (h : items w log = item :: rest) :
    ∃ later e earlier, log = later ++ e :: earlier ∧ e.thread = w ∧ e.item = item ∧
      items w earlier = rest ∧ ∀ e' ∈ later, e'.thread ≠ w := by
  induction log with
  | nil => cases h
  | cons e log ih =>
    by_cases hw : e.thread = w
    · subst hw
      rw [items_cons_self, List.cons.injEq] at h
      exact ⟨[], e, log, rfl, rfl, h.1, h.2, nofun⟩
    · rw [items_cons_of_ne hw] at h
      obtain ⟨later, e', earlier, rfl, hthread, hitem, hrest, hlater⟩ := ih h
      refine ⟨e :: later, e', earlier, rfl, hthread, hitem, hrest, ?_⟩
      rintro e'' (_ | ⟨_, he''⟩)
      · exact hw
      · exact hlater e'' he''

/-- A transaction of a thread stands in the log. -/
theorem exists_entry_of_mem_items {w : W} {log : List (Entry σ W Request Answer)}
    {item : Sigma Answer} (h : item ∈ items w log) :
    ∃ later e earlier, log = later ++ e :: earlier ∧ e.thread = w ∧ e.item = item := by
  obtain ⟨e, he, hitem⟩ := List.mem_map.1 h
  obtain ⟨he, hthread⟩ := List.mem_filter.1 he
  obtain ⟨later, earlier, hlog⟩ := List.append_of_mem he
  exact ⟨later, e, earlier, hlog, of_decide_eq_true hthread, hitem⟩

theorem mem_items_append {w : W} {earlier : List (Entry σ W Request Answer)} {item : Sigma Answer}
    (h : item ∈ items w earlier) (later : List (Entry σ W Request Answer)) :
    item ∈ items w (later ++ earlier) := by
  rw [items, List.filter_append, List.map_append]
  exact List.mem_append_right _ h

theorem stored_cons_of_some {call : Call} {transaction : Tx σ ε (Answer call)}
    (h : exec call = some transaction) (answer : Answer call) (past : List (Sigma Answer)) :
    stored exec (⟨call, answer⟩ :: past) = ⟨call, answer⟩ :: stored exec past := by
  simp [stored, h]

theorem stored_cons_of_none {call : Call} (h : exec call = none) (answer : Answer call)
    (past : List (Sigma Answer)) : stored exec (⟨call, answer⟩ :: past) = stored exec past := by
  simp [stored, h]

/-- The log of the thread has the transactions of its past. -/
theorem Entry.Valid.mem_items {earlier : List (Entry σ W Request Answer)}
    {e : Entry σ W Request Answer} (h : e.Valid exec K earlier) {item : Sigma Answer}
    (hitem : item ∈ e.past) (hexec : (exec item.1).isSome = true) :
    item ∈ items e.thread earlier := by
  rw [h.own]
  exact List.mem_filter.2 ⟨hitem, hexec⟩

/-! ## Chronicles -/

theorem Chronicle.congr {log : List (Entry σ W Request Answer)} {s s' : σ}
    (h : Chronicle exec K view start log s) (hview : view s' = view s) :
    Chronicle exec K view start log s' := by
  cases log with
  | nil => exact hview.trans h
  | cons e earlier => exact ⟨hview.trans h.1, h.2⟩

/-- An entry of a log is valid, and the log before it leads to its store. -/
theorem Chronicle.at {later earlier : List (Entry σ W Request Answer)}
    {e : Entry σ W Request Answer} {s : σ}
    (h : Chronicle exec K view start (later ++ e :: earlier) s) :
    e.Valid exec K earlier ∧ Chronicle exec K view start earlier e.before := by
  induction later generalizing s with
  | nil => exact h.2
  | cons e' later ih => exact ih h.2.2

/-- The log since the first call of a thread is what comes after that call. -/
theorem Chronicle.sinceFirst_eq {later earlier : List (Entry σ W Request Answer)}
    {e : Entry σ W Request Answer} {s : σ}
    (h : Chronicle exec K view start (later ++ e :: earlier) s) (hfirst : e.past = []) :
    sinceFirst e.thread (later ++ e :: earlier) = later := by
  induction later generalizing s with
  | nil => simp [sinceFirst, hfirst]
  | cons e' later ih =>
    have hrest := ih h.2.2
    have hlate : ¬ (e'.thread = e.thread ∧ e'.past = []) := by
      rintro ⟨hthread, hpast⟩
      have hown := h.2.1.own
      rw [hthread, hpast, stored, List.filter_nil, items, List.map_eq_nil_iff,
        List.filter_eq_nil_iff] at hown
      exact hown e (by simp) (by simp)
    rw [sinceFirst] at hrest ⊢
    rw [List.cons_append, List.takeWhile_cons_of_pos, hrest]
    simpa [imp_iff_not_or] using hlate

/-- What holds at the start and is kept by every valid entry holds of the log and the store. -/
theorem Chronicle.invariant {I : List (Entry σ W Request Answer) → σ → Prop}
    {log : List (Entry σ W Request Answer)} {s : σ} (h : Chronicle exec K view start log s)
    (hview : ∀ log s s', view s' = view s → I log s → I log s') (hstart : I [] start)
    (hstep : ∀ earlier (e : Entry σ W Request Answer), e.Valid exec K earlier →
      Chronicle exec K view start earlier e.before → I earlier e.before →
        I (e :: earlier) e.after) : I log s := by
  induction log generalizing s with
  | nil => exact hview _ _ _ h hstart
  | cons e earlier ih => exact hview _ _ _ h.1 (hstep earlier e h.2.1 h.2.2 (ih h.2.2))

/-- What holds after an entry and is kept by every later one holds at the end. -/
theorem Chronicle.invariant_after {I : List (Entry σ W Request Answer) → σ → Prop}
    {later earlier : List (Entry σ W Request Answer)} {e : Entry σ W Request Answer} {s : σ}
    (h : Chronicle exec K view start (later ++ e :: earlier) s)
    (hview : ∀ later s s', view s' = view s → I later s → I later s') (hentry : I [] e.after)
    (hstep : ∀ later (e' : Entry σ W Request Answer),
      e'.Valid exec K (later ++ e :: earlier) →
        Chronicle exec K view start (later ++ e :: earlier) e'.before → I later e'.before →
          I (e' :: later) e'.after) : I later s := by
  induction later generalizing s with
  | nil => exact hview _ _ _ h.1 hentry
  | cons e' later ih => exact hview _ _ _ h.1 (hstep later e' h.2.1 h.2.2 (ih h.2.2))

/-- What holds at every valid entry holds along the log. -/
theorem Chronicle.along {P : List (Entry σ W Request Answer) → Entry σ W Request Answer → Prop}
    {log : List (Entry σ W Request Answer)} {s : σ} (h : Chronicle exec K view start log s)
    (hentry : ∀ earlier, ∀ e ∈ log, e.Valid exec K earlier →
      Chronicle exec K view start earlier e.before → P earlier e) : Along P log := by
  refine along_of_suffix fun earlier e hsuffix => ?_
  obtain ⟨later, rfl⟩ := hsuffix
  obtain ⟨hvalid, hearlier⟩ := h.at
  exact hentry earlier e (by simp) hvalid hearlier

/-! ## Runs -/

/-- The log of a tracked thread has the transactions of its past. -/
theorem Thread.Tracked.mem_items {log : List (Entry σ W Request Answer)} {w : W}
    {thread : Thread Result Answer} (h : thread.Tracked exec K log w) {item : Sigma Answer}
    (hitem : item ∈ thread.past) (hexec : (exec item.1).isSome = true) : item ∈ items w log := by
  rw [h.own]
  exact List.mem_filter.2 ⟨hitem, hexec⟩

theorem Thread.Tracked.cons_of_ne {log : List (Entry σ W Request Answer)} {w : W}
    {thread : Thread Result Answer} (h : thread.Tracked exec K log w)
    {e : Entry σ W Request Answer} (hw : e.thread ≠ w) : thread.Tracked exec K (e :: log) w where
  admitted := h.admitted
  own := by rw [items_cons_of_ne hw, h.own]
  request := by
    rintro e' (_ | ⟨_, he'⟩) hthread
    · exact absurd hthread hw
    · exact h.request e' he' hthread
  follows := h.follows

variable {s : State σ W Result Answer}

@[simp] theorem State.put_threads (w : W) (thread : Thread Result Answer) :
    (s.put w thread).threads = Function.update s.threads w (some thread) := rfl

/-- Another thread in place of a thread, or a new one. -/
theorem State.Traced.put (h : s.Traced exec K view start) {w : W} {thread : Thread Result Answer}
    (hthread : thread.Tracked exec K s.log w) : (s.put w thread).Traced exec K view start where
  chronicle := h.chronicle
  threads v thread' hv := by
    by_cases hvw : v = w
    · subst hvw
      rw [State.put_threads, Function.update_self, Option.some.injEq] at hv
      exact hv ▸ hthread
    · rw [State.put_threads, Function.update_of_ne hvw] at hv
      exact h.threads v thread' hv
  unstarted v hv := by
    by_cases hvw : v = w
    · subst hvw
      rw [State.put_threads, Function.update_self] at hv
      cases hv
    · rw [State.put_threads, Function.update_of_ne hvw] at hv
      exact h.unstarted v hv

@[simp] theorem State.append_threads (e : Entry σ W Request Answer)
    (thread : Thread Result Answer) :
    (s.append e thread).threads = Function.update s.threads e.thread (some thread) := rfl

/-- A valid entry in front of the log, and its thread after it. -/
theorem State.Traced.append (h : s.Traced exec K view start) {e : Entry σ W Request Answer}
    (hbefore : e.before = s.store) (hvalid : e.Valid exec K s.log) {thread : Thread Result Answer}
    (hthread : thread.Tracked exec K (e :: s.log) e.thread) :
    (s.append e thread).Traced exec K view start where
  chronicle := ⟨rfl, hvalid, by rw [hbefore]; exact h.chronicle⟩
  threads v thread' hv := by
    by_cases hvw : v = e.thread
    · subst hvw
      rw [State.append_threads, Function.update_self, Option.some.injEq] at hv
      exact hv ▸ hthread
    · rw [State.append_threads, Function.update_of_ne hvw] at hv
      exact (h.threads v thread' hv).cons_of_ne (Ne.symm hvw)
  unstarted v hv := by
    by_cases hvw : v = e.thread
    · subst hvw
      rw [State.append_threads, Function.update_self] at hv
      cases hv
    · rw [State.append_threads, Function.update_of_ne hvw] at hv
      rintro e' (_ | ⟨_, he'⟩)
      · exact Ne.symm hvw
      · exact h.unstarted v hv e' he'

theorem State.Traced.storeStep (h : s.Traced exec K view start) {w : W}
    {thread : Thread Result Answer} (hthread : s.threads w = some thread)
    (hadmits : ∀ call transaction store answer store', exec call = some transaction →
      Commits transaction store answer store' → K.admits call answer)
    {s' : State σ W Result Answer} (hstep : s.storeStep exec w thread = some s') :
    s'.Traced exec K view start := by
  have htracked := h.threads w thread hthread
  unfold State.storeStep at hstep
  split at hstep
  · next call k hprocess =>
    obtain ⟨transaction, hexec, rfl⟩ := Option.map_eq_some_iff.1 hstep
    obtain ⟨hallowed, hnext⟩ := htracked.follows _ hprocess
    split
    · next answer store hcommits =>
      have hanswer := hadmits call transaction _ answer store hexec hcommits
      have hvalid : Entry.Valid exec K s.log
          { thread := w, request := thread.request, past := thread.past, call, answer
            before := s.store, after := store } :=
        ⟨hallowed, htracked.admitted, ⟨transaction, hexec, hcommits⟩, htracked.own,
          htracked.request⟩
      refine h.append rfl hvalid ⟨?_, ?_, ?_, ?_⟩
      · rintro item (_ | ⟨_, hitem⟩)
        · exact hanswer
        · exact htracked.admitted item hitem
      · rw [stored_cons_of_some hexec, ← htracked.own]
        exact items_cons_self _ _
      · rintro e (_ | ⟨_, he⟩) he_thread
        · rfl
        · exact htracked.request e he he_thread
      · rintro process ⟨⟩
        exact hnext answer hanswer
    · exact h.put ⟨htracked.admitted, htracked.own, htracked.request, nofun⟩
  · cases hstep

theorem State.Traced.hostStep (h : s.Traced exec K view start) {w : W}
    {thread : Thread Result Answer} (hthread : s.threads w = some thread)
    {answer : (call : Call) → Answer call} (hanswer : ∀ call, K.admits call (answer call))
    {s' : State σ W Result Answer} (hstep : s.hostStep exec w answer thread = some s') :
    s'.Traced exec K view start := by
  have htracked := h.threads w thread hthread
  unfold State.hostStep at hstep
  split at hstep
  · next call k hprocess =>
    split_ifs at hstep with hexec
    obtain rfl := Option.some.inj hstep
    rw [Option.isNone_iff_eq_none] at hexec
    refine h.put ⟨?_, ?_, htracked.request, ?_⟩
    · rintro item (_ | ⟨_, hitem⟩)
      · exact hanswer call
      · exact htracked.admitted item hitem
    · rw [stored_cons_of_none hexec]
      exact htracked.own
    · rintro process ⟨⟩
      exact (htracked.follows _ hprocess).2 _ (hanswer call)
  · cases hstep

theorem traced_of_initial (h : s.Initial) : s.Traced exec K view s.store where
  chronicle := by
    rw [h.log]
    rfl
  threads w thread hthread := by
    rw [h.threads w] at hthread
    cases hthread
  unstarted := by simp [h.log]

/-- In every run of programs that honour a contract the log leads to the store, and the threads are
tracked by it. -/
theorem traced_of_reach [DecidableEq τ]
    {program : (request : Request) → Program Call Answer (Result request)}
    {C : State σ W Result Answer → Act σ W Request Answer → Prop}
    (hprogram : ∀ request, Follows (K.protocol request) [] (program request) (K.returns request))
    (hadmits : ∀ call transaction store answer store', exec call = some transaction →
      Commits transaction store answer store' → K.admits call answer)
    (hC : ∀ s act, C s act → act.Answers K) {s₀ s : State σ W Result Answer} (hs₀ : s₀.Initial)
    (hrun : Reach (fun s => s.step program exec view) C s₀ s) :
    s.Traced exec K view s₀.store := by
  refine hrun.invariant (traced_of_initial hs₀) fun s act s' h hact hstep => ?_
  cases act with
  | start w request =>
    simp only [State.step] at hstep
    split at hstep
    · next hnone =>
      obtain rfl := Option.some.inj hstep
      refine h.put ⟨nofun, ?_, fun e he hthread => ?_, ?_⟩
      · exact items_eq_nil (h.unstarted w hnone)
      · exact absurd hthread (h.unstarted w hnone e he)
      · rintro process ⟨⟩
        exact hprogram request
    · cases hstep
  | store w =>
    obtain ⟨thread, hthread, hstep⟩ := Option.bind_eq_some_iff.1 hstep
    exact h.storeStep hthread hadmits hstep
  | host w answer =>
    obtain ⟨thread, hthread, hstep⟩ := Option.bind_eq_some_iff.1 hstep
    exact h.hostStep hthread (hC s _ hact) hstep
  | elsewhere store =>
    simp only [State.step] at hstep
    split_ifs at hstep with hview
    obtain rfl := Option.some.inj hstep
    exact ⟨h.chronicle.congr hview, h.threads, h.unstarted⟩

/-- Only certain requests are started. -/
def Act.Starts (P : Request → Prop) : Act σ W Request Answer → Prop
  | .start _ request => P request
  | _ => True

/-- The requests of the threads and of the log. -/
structure State.Requested (P : Request → Prop) (s : State σ W Result Answer) : Prop where
  threads : ∀ w thread, s.threads w = some thread → P thread.request
  log : ∀ e ∈ s.log, P e.request

theorem State.Requested.put {P : Request → Prop} (h : s.Requested P) (w : W)
    {thread : Thread Result Answer} (hthread : P thread.request) : (s.put w thread).Requested P where
  threads v thread' hv := by
    by_cases hvw : v = w
    · subst hvw
      rw [State.put_threads, Function.update_self, Option.some.injEq] at hv
      exact hv ▸ hthread
    · rw [State.put_threads, Function.update_of_ne hvw] at hv
      exact h.threads v thread' hv
  log := h.log

/-- In every run that only starts certain requests the threads and the log have no other. -/
theorem requested_of_reach [DecidableEq τ] {P : Request → Prop}
    {program : (request : Request) → Program Call Answer (Result request)}
    {C : State σ W Result Answer → Act σ W Request Answer → Prop}
    (hC : ∀ s act, C s act → act.Starts P) {s₀ s : State σ W Result Answer}
    (hs₀ : s₀.Initial) (hrun : Reach (fun s => s.step program exec view) C s₀ s) :
    s.Requested P := by
  have hstart : s₀.Requested P := by
    constructor
    · intro w thread hthread
      rw [hs₀.threads w] at hthread
      cases hthread
    · simp [hs₀.log]
  refine hrun.invariant hstart fun s act s' h hact hstep => ?_
  cases act with
  | start w request =>
    simp only [State.step] at hstep
    split at hstep
    · obtain rfl := Option.some.inj hstep
      exact h.put w (hC s _ hact)
    · cases hstep
  | store w =>
    obtain ⟨thread, hthread, hstep⟩ := Option.bind_eq_some_iff.1 hstep
    have hrequest := h.threads w thread hthread
    unfold State.storeStep at hstep
    split at hstep
    · obtain ⟨transaction, -, rfl⟩ := Option.map_eq_some_iff.1 hstep
      split
      · refine ⟨(h.put w ?_).threads, ?_⟩
        · exact hrequest
        · rintro e (_ | ⟨_, he⟩)
          · exact hrequest
          · exact h.log e he
      · exact h.put w hrequest
    · cases hstep
  | host w answer =>
    obtain ⟨thread, hthread, hstep⟩ := Option.bind_eq_some_iff.1 hstep
    unfold State.hostStep at hstep
    split at hstep
    · split_ifs at hstep
      obtain rfl := Option.some.inj hstep
      exact h.put w (h.threads w thread hthread)
    · cases hstep
  | elsewhere store =>
    simp only [State.step] at hstep
    split_ifs at hstep
    obtain rfl := Option.some.inj hstep
    exact ⟨h.threads, h.log⟩

end Chronicle

/-! ## A thread that runs alone -/

section Alone

variable (exec : (call : Call) → Option (Tx σ ε (Answer call)))
  (host : (call : Call) → Answer call)

/-- The calls of a trace are answered as it says: each transaction leads to the store of the next
one, and the host gives the other answers. -/
def Answered : List (Sigma Answer) → σ → σ → Prop
  | [], s, s' => s' = s
  | item :: rest, s, s' =>
    match exec item.1 with
    | some transaction => ∃ s₁, Commits transaction s item.2 s₁ ∧ Answered rest s₁ s'
    | none => host item.1 = item.2 ∧ Answered rest s s'

variable {exec host}

theorem Answered.nil (s : σ) : Answered exec host [] s s := rfl

theorem Answered.cons_store {call : Call} {transaction : Tx σ ε (Answer call)}
    {answer : Answer call} {rest : List (Sigma Answer)} {s s₁ s' : σ}
    (hexec : exec call = some transaction) (hcommits : Commits transaction s answer s₁)
    (hrest : Answered exec host rest s₁ s') :
    Answered exec host (⟨call, answer⟩ :: rest) s s' := by
  rw [Answered, hexec]
  exact ⟨s₁, hcommits, hrest⟩

theorem Answered.cons_host {call : Call} {answer : Answer call} {rest : List (Sigma Answer)}
    {s s' : σ} (hexec : exec call = none) (hanswer : host call = answer)
    (hrest : Answered exec host rest s s') :
    Answered exec host (⟨call, answer⟩ :: rest) s s' := by
  rw [Answered, hexec]
  exact ⟨hanswer, hrest⟩

variable [DecidableEq W] [DecidableEq τ] {view : σ → τ}
  {program : (request : Request) → Program Call Answer (Result request)}
  {C : State σ W Result Answer → Act σ W Request Answer → Prop}

/-- A thread can run to its end without any other step in between. -/
theorem exists_reach_alone {w : W} {request : Request} (hstore : ∀ s, C s (.store w))
    (hhost : ∀ s, C s (.host w host)) {p : Program Call Answer (Result request)}
    {trace past : List (Sigma Answer)} {result : Result request} (hruns : p.Runs trace result)
    {s : State σ W Result Answer} {store : σ}
    (hthread : s.threads w = some { request, past, process := some p })
    (hanswered : Answered exec host trace s.store store) :
    ∃ s' : State σ W Result Answer, Reach (fun s => s.step program exec view) C s s' ∧
      s'.store = store ∧ s'.threads = Function.update s.threads w
        (some { request, past := trace.reverse ++ past, process := some (.done result) }) ∧
      s'.log.map Entry.item = (stored exec trace).reverse ++ s.log.map Entry.item := by
  induction p generalizing trace past s with
  | done value =>
    obtain ⟨rfl, rfl⟩ := hruns
    refine ⟨s, Reach.refl s, hanswered.symm, ?_, rfl⟩
    rw [List.reverse_nil, List.nil_append, ← hthread, Function.update_eq_self]
  | call call k ih =>
    obtain ⟨answer, rest, rfl, hrest⟩ := hruns
    rw [List.reverse_cons, List.append_assoc]
    unfold Answered at hanswered
    split at hanswered
    · next transaction hexec =>
      obtain ⟨store₁, hcommits, hanswered⟩ := hanswered
      -- The transaction commits with the answer of the trace.
      obtain ⟨s₁, hstep, hs₁, hnext, hlog₁⟩ : ∃ s₁, s.step program exec view (.store w) = some s₁ ∧
          s₁.store = store₁ ∧ s₁.threads = Function.update s.threads w
            (some { request, past := ⟨call, answer⟩ :: past, process := some (k answer) }) ∧
          s₁.log.map Entry.item = ⟨call, answer⟩ :: s.log.map Entry.item := by
        have hcommits : transaction s.store = .ok (answer, store₁) := hcommits
        refine ⟨s.append
          { thread := w, request, past, call, answer, before := s.store, after := store₁ }
          { request, past := ⟨call, answer⟩ :: past, process := some (k answer) }, ?_, rfl, rfl, rfl⟩
        simp only [State.step, hthread, Option.bind_some, State.storeStep, hexec, Option.map_some,
          hcommits]
      obtain ⟨s', hreach, hs', hthreads, hlog⟩ :=
        ih answer hrest (by rw [hnext, Function.update_self]) (hs₁ ▸ hanswered)
      refine ⟨s', (Reach.tail (Reach.refl s) (hstore s) hstep).trans hreach, hs', ?_, ?_⟩
      · rw [hthreads, hnext, Function.update_idem]
        rfl
      · rw [hlog, hlog₁, stored_cons_of_some hexec, List.reverse_cons, List.append_assoc]
        rfl
    · next hexec =>
      obtain ⟨hanswer, hanswered⟩ := hanswered
      obtain ⟨s₁, hstep, hs₁, hnext, hlog₁⟩ :
          ∃ s₁, s.step program exec view (.host w host) = some s₁ ∧
          s₁.store = s.store ∧ s₁.threads = Function.update s.threads w
            (some { request, past := ⟨call, answer⟩ :: past, process := some (k answer) }) ∧
          s₁.log = s.log := by
        change host call = answer at hanswer
        refine ⟨s.put w
          { request, past := ⟨call, answer⟩ :: past, process := some (k answer) }, ?_, rfl, rfl, rfl⟩
        simp only [State.step, hthread, Option.bind_some, State.hostStep, hexec,
          Option.isNone_none, if_true, hanswer]
      obtain ⟨s', hreach, hs', hthreads, hlog⟩ :=
        ih answer hrest (by rw [hnext, Function.update_self]) (hs₁ ▸ hanswered)
      refine ⟨s', (Reach.tail (Reach.refl s) (hhost s) hstep).trans hreach, hs', ?_, ?_⟩
      · rw [hthreads, hnext, Function.update_idem]
        rfl
      · rw [hlog, hlog₁, stored_cons_of_none hexec]

end Alone

end ChecksAndBalances.Lib.Threads
