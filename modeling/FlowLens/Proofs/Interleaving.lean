/-
  One registry and many clients, whose steps come in any order.  What is done under
  the registry's lock is one step; the stops that a client has to make after it
  crossed out all roots are one step each, and others may come between them.

  * `Crowd`, the registry with its clients, `Crowd.Step`, what one client can do
    next, and `Crowd.Runs`, steps one after the other;
  * `Crowd.runs_stopAll`: the steps of a client that is left alone are what
    `Checker.stopAll` does;
  * `Crowd.Kept`, the invariant, `Crowd.kept_step`, one step keeps it, and
    `Crowd.kept_runs`, so do all of them.
-/
import FlowLens.Proofs.StopLedger
import Mathlib

namespace FlowLens

/-! ## Clients -/

/-- What a client asks of the registry. -/
inductive Errand where
  /-- A root is to be stopped at exit. -/
  | schedule (root : Text)
  /-- The servers of all roots are to be stopped now. -/
  | stopAll
  deriving DecidableEq, Repr

/-- A client of the registry. -/
structure Client where
  /-- The roots that it has crossed out and has yet to stop. -/
  pending : List Text
  /-- What it asks for after that. -/
  errands : List Errand
  deriving DecidableEq, Repr

/-- A registry and its clients. -/
structure Crowd (n : Nat) where
  /-- The calls so far, and the ledger. -/
  session : Session
  /-- How often an exit hook was registered. -/
  hooks : Nat
  /-- The clients. -/
  clients : Fin n → Client

/-- What a client did. -/
inductive Event (n : Nat) where
  /-- It asked to have a root stopped at exit, and was told whether that was news. -/
  | scheduled (i : Fin n) (root : Text) (news : Bool)
  /-- It crossed out all roots. -/
  | snapshot (i : Fin n)
  /-- It stopped a root. -/
  | stopped (i : Fin n) (root : Text)
  deriving DecidableEq, Repr

namespace Event

variable {n : Nat}

/-- All roots are crossed out. -/
def isSnapshot : Event n → Bool
  | snapshot _ => true
  | _ => false

/-- A root is newly scheduled. -/
def isNews (root : Text) : Event n → Bool
  | scheduled _ r news => r = root && news
  | _ => false

end Event

namespace Crowd

variable {n : Nat} {binary : Text} {s t u : Crowd n} {e : Event n} {events later : List (Event n)}

/-- Nothing was done yet. -/
def start (script : Script) (errands : Fin n → List Errand) : Crowd n :=
  ⟨⟨.start script, .empty⟩, 0, fun i => ⟨[], errands i⟩⟩

/-- A client has a root scheduled.  A hook is registered when the ledger says so
    for the first time. -/
def scheduling (s : Crowd n) (i : Fin n) (root : Text) (rest : List Errand) : Crowd n where
  session := ⟨s.session.exchange, (s.session.ledger.schedule root).2⟩
  hooks := s.hooks +
    if (s.session.ledger.schedule root).2.hooked && !s.session.ledger.hooked then 1 else 0
  clients := Function.update s.clients i ⟨[], rest⟩

/-- A client crosses out all roots, and has them to stop. -/
def settling (s : Crowd n) (i : Fin n) (rest : List Errand) : Crowd n where
  session := ⟨s.session.exchange, s.session.ledger.settle⟩
  hooks := s.hooks
  clients := Function.update s.clients i ⟨s.session.ledger.roots, rest⟩

/-- A client has one root less to stop, after a call. -/
def stopping (s : Crowd n) (i : Fin n) (more : List Text) (rest : List Errand) (x : Exchange) :
    Crowd n where
  session := ⟨x, s.session.ledger⟩
  hooks := s.hooks
  clients := Function.update s.clients i ⟨more, rest⟩

/-- One step of one client.  A stop may be refused by the operating system, but has
    no other fault. -/
inductive Step (binary : Text) (s : Crowd n) : Event n → Crowd n → Prop
  | schedule (i : Fin n) (root : Text) (rest : List Errand)
      (hclient : s.clients i = ⟨[], .schedule root :: rest⟩) :
      Step binary s (.scheduled i root (s.session.ledger.schedule root).1) (s.scheduling i root rest)
  | snapshot (i : Fin n) (rest : List Errand) (hclient : s.clients i = ⟨[], .stopAll :: rest⟩) :
      Step binary s (.snapshot i) (s.settling i rest)
  | stop (i : Fin n) (root : Text) (more : List Text) (rest : List Errand) (x : Exchange)
      (hclient : s.clients i = ⟨root :: more, rest⟩)
      (hstop : Checker.stopEach .scripted binary [root] s.session.exchange = (.ok (), x)) :
      Step binary s (.stopped i root) (s.stopping i more rest x)

/-- Steps one after the other. -/
inductive Runs (binary : Text) (s : Crowd n) : List (Event n) → Crowd n → Prop
  | refl : Runs binary s [] s
  | step {events : List (Event n)} {t u : Crowd n} {e : Event n} :
      Runs binary s events t → Step binary t e u → Runs binary s (events ++ [e]) u

/-! ## A client that is left alone -/

theorem Runs.trans (hs : Runs binary s events t) (ht : Runs binary t later u) :
    Runs binary s (events ++ later) u := by
  induction ht with
  | refl => rw [List.append_nil]; exact hs
  | step _ hstep ih => rw [← List.append_assoc]; exact ih.step hstep

theorem runs_stopEach {i : Fin n} {roots : List Text} {rest : List Errand}
    (hclient : s.clients i = ⟨roots, rest⟩)
    (hok : (Checker.stopEach .scripted binary roots s.session.exchange).1 = .ok ()) :
    Runs binary s (roots.map (.stopped i))
      (s.stopping i [] rest (Checker.stopEach .scripted binary roots s.session.exchange).2) := by
  induction roots generalizing s with
  | nil =>
    have hsame : s.stopping i [] rest s.session.exchange = s := by
      rw [stopping, ← hclient, Function.update_eq_self]
    rw [Checker.stopEach, hsame]
    exact .refl
  | cons root more ih =>
    obtain ⟨hfirst, hmore⟩ := Checker.stopEach_cons_of_ok hok
    rw [hmore] at hok ⊢
    set x' := (Runner.scripted (Checker.stopCall binary root) s.session.exchange).2
    have hstep := Step.stop i root more rest x' hclient hfirst
    have hrest := @ih (s.stopping i more rest x') (by simp [stopping]) hok
    have hlast : (s.stopping i more rest x').stopping i [] rest
        (Checker.stopEach .scripted binary more x').2 =
        s.stopping i [] rest (Checker.stopEach .scripted binary more x').2 := by
      simp [stopping]
    rw [← hlast]
    exact Runs.trans (Runs.refl.step hstep) hrest

/-- **A client that is left alone** stops all servers as `Checker.stopAll` does. -/
theorem runs_stopAll {i : Fin n} {rest : List Errand}
    (hclient : s.clients i = ⟨[], .stopAll :: rest⟩)
    (hok : (Checker.stopAll .scripted binary s.session).1 = .ok ()) :
    Runs binary s (.snapshot i :: s.session.ledger.roots.map (.stopped i))
      ⟨(Checker.stopAll .scripted binary s.session).2, s.hooks,
        Function.update s.clients i ⟨[], rest⟩⟩ := by
  have hstep : Step binary s (.snapshot i) (s.settling i rest) := .snapshot i rest hclient
  have hstops := @runs_stopEach n binary (s.settling i rest) i s.session.ledger.roots rest
    (by simp [settling]) hok
  have hlast : (s.settling i rest).stopping i [] rest
      (Checker.stopEach .scripted binary s.session.ledger.roots s.session.exchange).2 =
      ⟨(Checker.stopAll .scripted binary s.session).2, s.hooks,
        Function.update s.clients i ⟨[], rest⟩⟩ := by
    simp [stopping, settling, Checker.stopAll]
  rw [← hlast]
  exact Runs.trans (Runs.refl.step hstep) hstops

/-! ## The invariant -/

/-- What happened since all roots were last crossed out. -/
def sinceSnapshot (events : List (Event n)) : List (Event n) :=
  events.rtakeWhile (!·.isSnapshot)

/-- Somebody asked for a root. -/
def Asked (root : Text) (events : List (Event n)) : Prop :=
  ∃ i news, Event.scheduled i root news ∈ events

/-- A root is news to whoever is the first to ask for it since all were crossed out. -/
def Answered (events : List (Event n)) : Prop :=
  ∀ past i root news, past ++ [.scheduled i root news] <+: events →
    (news = true ↔ ¬ Asked root (sinceSnapshot past))

/-- How often the server of a root was stopped. -/
def stops (binary root : Text) (s : Crowd n) : Nat :=
  s.session.exchange.calls.countP (·.args = [binary, "stop", root])

/-- How many stops of a root are still to be made by the clients that crossed it out. -/
def pending (root : Text) (s : Crowd n) : Nat :=
  ∑ i, (s.clients i).pending.count root

/-- The ledger says who asked since all roots were last crossed out; every news was
    followed by a stop, or by a client that is about to make it, or is in the ledger;
    and there is one hook, once the ledger says so. -/
structure Kept (binary : Text) (events : List (Event n)) (s : Crowd n) : Prop where
  distinct : s.session.ledger.Distinct
  hooks : s.hooks = if s.session.ledger.hooked then 1 else 0
  hooked : ∀ root, s.session.ledger.isScheduled root = true → s.session.ledger.hooked = true
  asked : ∀ root, s.session.ledger.isScheduled root = true ↔ Asked root (sinceSnapshot events)
  answered : Answered events
  balanced : ∀ root, events.countP (·.isNews root) =
    s.stops binary root + s.pending root + if s.session.ledger.isScheduled root then 1 else 0

theorem sinceSnapshot_concat (he : e.isSnapshot = false) :
    sinceSnapshot (events ++ [e]) = sinceSnapshot events ++ [e] :=
  List.rtakeWhile_concat_pos _ _ _ (by simp [he])

theorem sinceSnapshot_snapshot (i : Fin n) : sinceSnapshot (events ++ [.snapshot i]) = [] :=
  List.rtakeWhile_concat_neg _ _ _ (by simp [Event.isSnapshot])

theorem asked_concat {root : Text} :
    Asked root (events ++ [e]) ↔ Asked root events ∨ ∃ i news, e = .scheduled i root news := by
  simp only [Asked, List.mem_append, List.mem_singleton, exists_or, eq_comm]

theorem answered_concat (h : Answered events)
    (he : ∀ i root news, e = .scheduled i root news →
      (news = true ↔ ¬ Asked root (sinceSnapshot events))) :
    Answered (events ++ [e]) := by
  intro past i root news hprefix
  rcases List.prefix_concat_iff.1 hprefix with hall | hpast
  · obtain ⟨rfl, hlast⟩ := List.append_inj' hall rfl
    exact he i root news (List.singleton_inj.1 hlast).symm
  · exact h past i root news hpast

/-- A client's step changes what is pending by what that client has to do. -/
theorem pending_update {i : Fin n} {c : Client} (root : Text)
    (hclients : t.clients = Function.update s.clients i c) :
    t.pending root + (s.clients i).pending.count root = s.pending root + c.pending.count root := by
  have hothers : ∑ j ∈ Finset.univ.erase i, (t.clients j).pending.count root =
      ∑ j ∈ Finset.univ.erase i, (s.clients j).pending.count root := by
    refine Finset.sum_congr rfl fun j hj => ?_
    rw [hclients, Function.update_of_ne (Finset.ne_of_mem_erase hj)]
  have hi : (t.clients i).pending.count root = c.pending.count root := by
    rw [hclients, Function.update_self]
  rw [pending, pending, ← Finset.add_sum_erase _ _ (Finset.mem_univ i),
    ← Finset.add_sum_erase _ (fun j => (s.clients j).pending.count root) (Finset.mem_univ i),
    hothers, hi]
  omega

theorem kept_start (script : Script) (errands : Fin n → List Errand) :
    (start script errands).Kept binary [] where
  distinct := List.nodup_nil
  hooks := rfl
  hooked _ h := by cases h
  asked root := by simp [Asked, sinceSnapshot, start, Ledger.empty, Ledger.isScheduled,
    Ledger.scheduledIn]
  answered past i root news h := by simp at h
  balanced root := by simp [stops, pending, start, Exchange.start, Ledger.empty,
    Ledger.isScheduled, Ledger.scheduledIn]

theorem kept_scheduling {i : Fin n} {root : Text} {rest : List Errand} (hk : s.Kept binary events)
    (hclient : s.clients i = ⟨[], .schedule root :: rest⟩) :
    (s.scheduling i root rest).Kept binary
      (events ++ [.scheduled i root (s.session.ledger.schedule root).1]) where
  distinct := Ledger.distinct_schedule hk.distinct
  hooks := by
    simp only [scheduling, Ledger.hooked_schedule, hk.hooks]
    cases s.session.ledger.hooked <;> cases s.session.ledger.isScheduled root <;> rfl
  hooked r hr := by
    simp only [scheduling, Ledger.isScheduled_schedule, Ledger.hooked_schedule] at hr ⊢
    cases hroot : s.session.ledger.isScheduled root with
    | true => simp [hk.hooked root hroot]
    | false => simp
  asked r := by
    rw [sinceSnapshot_concat rfl, asked_concat, ← hk.asked r]
    have hroot : (∃ j news, Event.scheduled i root (s.session.ledger.schedule root).1 =
        .scheduled j r news) ↔ r = root := by simp [eq_comm]
    rw [hroot, scheduling, Ledger.isScheduled_schedule, Bool.or_eq_true, decide_eq_true_iff,
      or_comm]
  answered := by
    refine answered_concat hk.answered ?_
    rintro j r news ⟨⟩
    rw [Ledger.fst_schedule, ← hk.asked root]
    simp
  balanced r := by
    have hpending : (s.scheduling i root rest).pending r = s.pending r := by
      simpa [hclient] using pending_update (s := s) (t := s.scheduling i root rest) r rfl
    rw [List.countP_append, List.countP_singleton, hk.balanced r, hpending, scheduling,
      Ledger.isScheduled_schedule, Ledger.fst_schedule, Event.isNews]
    -- an answer that it is news and the root in the ledger come together
    by_cases hr : r = root
    · subst hr
      cases s.session.ledger.isScheduled r <;> simp [stops]
    · simp [stops, hr, Ne.symm hr]

theorem kept_settling {i : Fin n} {rest : List Errand} (hk : s.Kept binary events)
    (hclient : s.clients i = ⟨[], .stopAll :: rest⟩) :
    (s.settling i rest).Kept binary (events ++ [.snapshot i]) where
  distinct := Ledger.distinct_settle hk.distinct
  hooks := hk.hooks
  hooked r hr := by
    rw [settling, Ledger.isScheduled_settle hk.distinct] at hr
    cases hr
  asked r := by
    rw [settling, Ledger.isScheduled_settle hk.distinct, sinceSnapshot_snapshot]
    simp [Asked]
  answered := answered_concat hk.answered (by simp)
  balanced r := by
    -- what was scheduled passes to the client that crossed it out
    have hpending : (s.settling i rest).pending r =
        s.pending r + if s.session.ledger.isScheduled r then 1 else 0 := by
      simpa [hclient, Ledger.count_roots hk.distinct] using
        pending_update (s := s) (t := s.settling i rest) r rfl
    rw [List.countP_append, List.countP_singleton, hk.balanced r, hpending, settling,
      Ledger.isScheduled_settle hk.distinct]
    simp [stops, Event.isNews, Nat.add_assoc]

theorem kept_stopping {i : Fin n} {root : Text} {more : List Text} {rest : List Errand}
    {x : Exchange} (hk : s.Kept binary events) (hclient : s.clients i = ⟨root :: more, rest⟩)
    (hstop : Checker.stopEach .scripted binary [root] s.session.exchange = (.ok (), x)) :
    (s.stopping i more rest x).Kept binary (events ++ [.stopped i root]) where
  distinct := hk.distinct
  hooks := hk.hooks
  hooked := hk.hooked
  asked r := by
    rw [sinceSnapshot_concat rfl, asked_concat, ← hk.asked r]
    simp [stopping]
  answered := answered_concat hk.answered (by simp)
  balanced r := by
    -- one stop less to make, and one call more
    have hpending : (s.stopping i more rest x).pending r + (if root = r then 1 else 0) =
        s.pending r := by
      have hupdate := pending_update (s := s) (t := s.stopping i more rest x) r rfl
      simp only [hclient, List.count_cons, beq_iff_eq] at hupdate
      omega
    have hstops : (s.stopping i more rest x).stops binary r =
        s.stops binary r + if root = r then 1 else 0 := by
      have hcalls : x.calls = s.session.exchange.calls ++ [Checker.stopCall binary root] := by
        simpa [hstop] using Checker.stopEach_of_ok (congrArg Prod.fst hstop)
      simp [stops, stopping, hcalls, List.countP_append, List.countP_singleton, Checker.stopCall]
    have hledger : (s.stopping i more rest x).session.ledger = s.session.ledger := rfl
    rw [List.countP_append, List.countP_singleton, hk.balanced r, hstops, hledger, ← hpending]
    simp only [Event.isNews, Bool.false_eq_true, if_false]
    omega

/-- **One step keeps the invariant.** -/
theorem kept_step (hk : s.Kept binary events) (hstep : Step binary s e t) :
    t.Kept binary (events ++ [e]) := by
  cases hstep with
  | schedule i root rest hclient => exact kept_scheduling hk hclient
  | snapshot i rest hclient => exact kept_settling hk hclient
  | stop i root more rest x hclient hstop => exact kept_stopping hk hclient hstop

/-- **All steps keep the invariant**, whoever makes them and in whatever order. -/
theorem kept_runs {script : Script} {errands : Fin n → List Errand}
    (hruns : Runs binary (start script errands) events s) : s.Kept binary events := by
  induction hruns with
  | refl => exact kept_start script errands
  | step _ hstep ih => exact kept_step ih hstep

/-! ## What clients can rely on -/

/-- What comes after a snapshot, or after nothing, and holds none is all that
    happened since. -/
theorem sinceSnapshot_append {before mid : List (Event n)}
    (hbefore : before = [] ∨ ∃ past i, before = past ++ [.snapshot i])
    (hmid : ∀ e ∈ mid, e.isSnapshot = false) : sinceSnapshot (before ++ mid) = mid := by
  induction mid using List.reverseRecOn with
  | nil =>
    rw [List.append_nil]
    obtain rfl | ⟨past, i, rfl⟩ := hbefore
    · rfl
    · exact sinceSnapshot_snapshot i
  | append_singleton mid e ih =>
    have he : e.isSnapshot = false := hmid e (by simp)
    rw [← List.append_assoc, sinceSnapshot_concat he, ih fun d hd => hmid d (by simp [hd])]

/-- **Nothing is lost and nothing is stopped twice**, in whatever order the steps of
    the clients come.  There is one exit hook as soon as a root is scheduled, and
    never a second one; between two snapshots a root is news to the first who asks
    for it and to nobody after; and every news is a stop that was made, or that some
    client has yet to make, or a root that is scheduled. -/
theorem runs_balanced {script : Script} {errands : Fin n → List Errand}
    (hruns : Runs binary (start script errands) events s) :
    (s.hooks ≤ 1 ∧ ∀ root, s.session.ledger.isScheduled root = true → s.hooks = 1) ∧
    (∀ before mid after i root news,
      events = before ++ mid ++ .scheduled i root news :: after →
      (before = [] ∨ ∃ past j, before = past ++ [.snapshot j]) →
      (∀ e ∈ mid, e.isSnapshot = false) →
      (news = true ↔ ∀ j answer, .scheduled j root answer ∉ mid)) ∧
    ∀ root, events.countP (·.isNews root) =
      s.stops binary root + s.pending root +
        if s.session.ledger.isScheduled root then 1 else 0 := by
  have hk := kept_runs hruns
  refine ⟨⟨?_, ?_⟩, ?_, hk.balanced⟩
  · rw [hk.hooks]
    split_ifs <;> omega
  · intro root hroot
    rw [hk.hooks, if_pos (hk.hooked root hroot)]
  · rintro before mid after i root news rfl hbefore hmid
    have hanswer := hk.answered (before ++ mid) i root news ⟨after, by simp⟩
    rw [sinceSnapshot_append hbefore hmid] at hanswer
    simpa [Asked] using hanswer

end Crowd

/-! ### Two clients -/

/-- A client that has a root scheduled and all servers stopped, and one that asks for
    that root twice before it does so. -/
def sampleErrands : Fin 2 → List Errand
  | 0 => [.schedule "/a", .stopAll]
  | 1 => [.schedule "/a", .schedule "/a", .stopAll]

/-- The second client asks again, and stops the server, while the first has crossed out
    the root and not yet stopped it. -/
def sampleEvents : List (Event 2) :=
  [.scheduled 0 "/a" true, .scheduled 1 "/a" false, .snapshot 0, .scheduled 1 "/a" true,
    .snapshot 1, .stopped 1 "/a"]

/-- The root was news twice: one stop was made, the other has yet to be. -/
theorem runs_sampleEvents : ∃ s : Crowd 2,
    Crowd.Runs "flow" (.start .silent sampleErrands) sampleEvents s ∧
      s.stops "flow" "/a" = 1 ∧ s.pending "/a" = 1 ∧
      sampleEvents.countP (·.isNews "/a") = s.stops "flow" "/a" + s.pending "/a" +
        if s.session.ledger.isScheduled "/a" then 1 else 0 := by
  have h0 : Crowd.Runs "flow" (.start .silent sampleErrands) [] _ := .refl
  have h1 := h0.step (.schedule 0 "/a" [.stopAll] rfl)
  have h2 := h1.step (.schedule 1 "/a" [.schedule "/a", .stopAll] rfl)
  have h3 := h2.step (.snapshot 0 [] rfl)
  have h4 := h3.step (.schedule 1 "/a" [.stopAll] rfl)
  have h5 := h4.step (.snapshot 1 [] rfl)
  have h6 := h5.step (.stop 1 "/a" [] [] _ rfl rfl)
  exact ⟨_, h6, by decide, by decide, (Crowd.runs_balanced h6).2.2 "/a"⟩

end FlowLens
