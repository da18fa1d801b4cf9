import PddlAssist.Happening

namespace PddlAssist

/-- A happening and where it is written. -/
structure Arrival where
  happening : Happening
  range : Range

namespace Timeline

def arrive (t : Timeline) (a : Arrival) : Timeline := t.add a.happening a.range

structure Report where
  arrival : Arrival × Nat
  time : List Issue
  pairing : List Issue

def reports (t : Timeline) : List (Arrival × Nat) → List Report
  | [] => []
  | (a, n) :: rest =>
    let timed := t.checkTime a.happening a.range
    let paired := timed.pair a.happening a.range
    { arrival := (a, n)
      time := timed.issues.drop t.issues.length
      pairing := paired.issues.drop timed.issues.length } :: reports (t.arrive a) rest

def hasKey (key : String × Nat) (a : Arrival × Nat) : Bool := a.1.happening.key == key

/-- The switch of a key remembers the arrival that opened it. -/
def turn (opened : Option (Arrival × Nat)) (a : Arrival × Nat) : Option (Arrival × Nat) :=
  match a.1.happening.kind, opened with
  | .start, none => some a
  | .stop, some _ => none
  | _, _ => opened

def complaint (opened : Option (Arrival × Nat)) (a : Arrival) : List Issue :=
  match a.happening.kind, opened with
  | .start, some _ =>
    [.error ("Action " ++ counterText a.happening ++ " is already running; use a different counter") a.range]
  | .stop, none => [.error ("No matching start for end of " ++ counterText a.happening) a.range]
  | _, _ => []

def complaints (opened : Option (Arrival × Nat)) : List (Arrival × Nat) → List ((Arrival × Nat) × List Issue)
  | [] => []
  | a :: rest => (a, complaint opened a.1) :: complaints (turn opened a) rest

/-- Starts and ends alternate, beginning with a start and ending with an end. -/
def Alternates (kinds : List HappeningKind) : Prop :=
  ∃ n, kinds.filter (· ≠ .instantaneous) = (List.replicate n [HappeningKind.start, .stop]).flatten

/-- The starts that wait are the arrivals that the switches of their keys remember, in the order of their numbers. -/
structure Waiting (t : Timeline) (earlier waiting : List (Arrival × Nat)) : Prop where
  running : t.running = waiting.map (·.1.happening)
  ordered : waiting.Sublist earlier
  opened : ∀ key, waiting.filter (hasKey key) = ((earlier.filter (hasKey key)).foldl turn none).toList

theorem pair_issues (t : Timeline) (h : Happening) (range : Range) :
    ∃ issues, (t.pair h range).issues = t.issues ++ issues := by
  unfold pair
  split
  · split
    · exact ⟨_, rfl⟩
    · exact ⟨[], by simp⟩
  · split
    · exact ⟨[], by simp⟩
    · exact ⟨_, rfl⟩
  · exact ⟨[], by simp⟩

theorem checkTime_issues (t : Timeline) (h : Happening) (range : Range) :
    ∃ issues, (t.checkTime h range).issues = t.issues ++ issues := by
  unfold checkTime
  split
  · exact ⟨_, rfl⟩
  · exact ⟨[], by simp⟩

theorem checkTime_running (t : Timeline) (h : Happening) (range : Range) :
    (t.checkTime h range).running = t.running := by
  unfold checkTime
  split <;> rfl

theorem issues_arrive (t : Timeline) (arrivals : List (Arrival × Nat)) :
    ((arrivals.map Prod.fst).foldl arrive t).issues =
      t.issues ++ (t.reports arrivals).flatMap fun r => r.time ++ r.pairing := by
  induction arrivals generalizing t with
  | nil => simp [reports]
  | cons a rest ih =>
    obtain ⟨time, isTime⟩ := checkTime_issues t a.1.happening a.1.range
    obtain ⟨pairing, isPairing⟩ := pair_issues (t.checkTime a.1.happening a.1.range) a.1.happening a.1.range
    have arrived : (t.arrive a.1).issues = t.issues ++ (time ++ pairing) := by
      rw [← List.append_assoc, ← isTime, ← isPairing]
      rfl
    rw [List.map_cons, List.foldl_cons, ih, arrived]
    simp [reports, isTime, isPairing]

namespace Waiting

variable {t : Timeline} {earlier waiting : List (Arrival × Nat)}

theorem isRunning (holds : Waiting t earlier waiting) (h : Happening) :
    t.isRunning h = ((earlier.filter (hasKey h.key)).foldl turn none).isSome := by
  have waits : t.isRunning h = waiting.any (hasKey h.key) := by
    rw [Timeline.isRunning, holds.running, List.any_map]
    rfl
  have own := holds.opened h.key
  rw [waits]
  cases opened : (earlier.filter (hasKey h.key)).foldl turn none with
  | none =>
    rw [opened, Option.toList_none, List.filter_eq_nil_iff] at own
    simpa using own
  | some a =>
    have member : a ∈ waiting.filter (hasKey h.key) := by simp [own, opened]
    rw [List.mem_filter] at member
    exact List.any_eq_true.mpr ⟨a, member⟩

theorem pairing (holds : Waiting t earlier waiting) (a : Arrival) :
    ((t.checkTime a.happening a.range).pair a.happening a.range).issues.drop
        (t.checkTime a.happening a.range).issues.length =
      complaint ((earlier.filter (hasKey a.happening.key)).foldl turn none) a := by
  have running := holds.isRunning a.happening
  rw [Timeline.isRunning, ← checkTime_running t a.happening a.range, ← Timeline.isRunning] at running
  generalize t.checkTime a.happening a.range = timed at running ⊢
  generalize (earlier.filter (hasKey a.happening.key)).foldl turn none = opened at running ⊢
  cases kind : a.happening.kind <;> cases opened <;> simp_all [pair, complaint, report]

theorem running_arrive (t : Timeline) (a : Arrival) :
    (t.arrive a).running =
      match a.happening.kind, t.isRunning a.happening with
      | .start, false => t.running ++ [a.happening]
      | .stop, true => t.running.eraseP (·.key == a.happening.key)
      | _, _ => t.running := by
  have running := checkTime_running t a.happening a.range
  rw [Timeline.isRunning, ← running, ← Timeline.isRunning]
  show ((t.checkTime a.happening a.range).pair a.happening a.range).running = _
  cases kind : a.happening.kind <;>
    cases known : (t.checkTime a.happening a.range).isRunning a.happening <;> simp [pair, kind, known, report]

theorem switch_append (key : String × Nat) (earlier : List (Arrival × Nat)) (a : Arrival × Nat) :
    ((earlier ++ [a]).filter (hasKey key)).foldl turn none =
      if a.1.happening.key = key then turn ((earlier.filter (hasKey key)).foldl turn none) a
      else (earlier.filter (hasKey key)).foldl turn none := by
  by_cases same : a.1.happening.key = key
  · simp [hasKey, same]
  · simp [hasKey, same]

theorem keep (holds : Waiting t earlier waiting) (a : Arrival × Nat)
    (running : (t.arrive a.1).running = t.running)
    (still : ∀ opened, opened = (earlier.filter (hasKey a.1.happening.key)).foldl turn none → turn opened a = opened) :
    Waiting (t.arrive a.1) (earlier ++ [a]) waiting where
  running := running.trans holds.running
  ordered := holds.ordered.trans (List.sublist_append_left _ _)
  opened key := by
    rw [switch_append, holds.opened key]
    split
    · rename_i same
      rw [still _ (by rw [same])]
    · rfl

theorem push (holds : Waiting t earlier waiting) {a : Arrival × Nat} (kind : a.1.happening.kind = .start)
    (closed : (earlier.filter (hasKey a.1.happening.key)).foldl turn none = none) :
    Waiting (t.arrive a.1) (earlier ++ [a]) (waiting ++ [a]) where
  running := by
    have idle : t.isRunning a.1.happening = false := by rw [holds.isRunning, closed, Option.isSome_none]
    rw [running_arrive, kind, idle, holds.running]
    simp
  ordered := holds.ordered.append (List.Sublist.refl [a])
  opened key := by
    rw [switch_append, List.filter_append, holds.opened key]
    by_cases same : a.1.happening.key = key
    · subst same
      simp [hasKey, closed, turn, kind]
    · simp [hasKey, same]

theorem pop (holds : Waiting t earlier waiting) {a : Arrival × Nat} (kind : a.1.happening.kind = .stop)
    {opening : Arrival × Nat}
    (opened : (earlier.filter (hasKey a.1.happening.key)).foldl turn none = some opening) :
    Waiting (t.arrive a.1) (earlier ++ [a]) (waiting.eraseP (hasKey a.1.happening.key)) where
  running := by
    have busy : t.isRunning a.1.happening = true := by rw [holds.isRunning, opened, Option.isSome_some]
    rw [running_arrive, kind, busy, holds.running]
    exact List.eraseP_map
  ordered := (List.eraseP_sublist).trans (holds.ordered.trans (List.sublist_append_left _ _))
  opened key := by
    have member : opening ∈ waiting.filter (hasKey a.1.happening.key) := by simp [holds.opened, opened]
    obtain ⟨isWaiting, isKey⟩ := List.mem_filter.mp member
    obtain ⟨b, left, right, _, sameKey, whole, erased⟩ := List.exists_of_eraseP isWaiting isKey
    have own := holds.opened key
    rw [switch_append, erased]
    rw [whole, List.filter_append] at own
    by_cases same : a.1.happening.key = key
    · subst same
      rw [opened, List.filter_cons_of_pos sameKey, Option.toList_some, List.append_eq_singleton_iff] at own
      have alone : left.filter (hasKey a.1.happening.key) = [] ∧ right.filter (hasKey a.1.happening.key) = [] := by
        rcases own with ⟨before, after⟩ | ⟨_, after⟩
        · exact ⟨before, (List.cons.inj after).2⟩
        · cases after
      rw [if_pos rfl, opened, List.filter_append, alone.1, alone.2]
      simp [turn, kind]
    · have otherKey : ¬hasKey key b = true := by
        simp only [hasKey, beq_iff_eq] at sameKey ⊢
        rwa [sameKey]
      rw [List.filter_cons_of_neg otherKey] at own
      rw [if_neg same, List.filter_append, own]

theorem arrive (holds : Waiting t earlier waiting) (a : Arrival × Nat) :
    ∃ waiting', Waiting (t.arrive a.1) (earlier ++ [a]) waiting' := by
  have known := holds.isRunning a.1.happening
  have running := running_arrive t a.1
  cases kind : a.1.happening.kind with
  | start =>
    cases opened : (earlier.filter (hasKey a.1.happening.key)).foldl turn none with
    | none => exact ⟨_, holds.push kind opened⟩
    | some opening =>
      rw [opened, Option.isSome_some] at known
      refine ⟨_, holds.keep a (by rw [running, kind, known]) ?_⟩
      rintro _ rfl
      simp [turn, kind, opened]
  | stop =>
    cases opened : (earlier.filter (hasKey a.1.happening.key)).foldl turn none with
    | none =>
      rw [opened, Option.isSome_none] at known
      refine ⟨_, holds.keep a (by rw [running, kind, known]) ?_⟩
      rintro _ rfl
      simp [turn, kind, opened]
    | some opening => exact ⟨_, holds.pop kind opened⟩
  | instantaneous => exact ⟨_, holds.keep a (by rw [running, kind]) fun opened _ => by simp [turn, kind]⟩

theorem run (holds : Waiting t earlier waiting) (arrivals : List (Arrival × Nat)) :
    (∀ key, ((t.reports arrivals).filter (hasKey key ·.arrival)).map (fun r => (r.arrival, r.pairing)) =
      complaints ((earlier.filter (hasKey key)).foldl turn none) (arrivals.filter (hasKey key))) ∧
    ∃ waiting', Waiting ((arrivals.map Prod.fst).foldl Timeline.arrive t) (earlier ++ arrivals) waiting' := by
  induction arrivals generalizing t earlier waiting with
  | nil => exact ⟨fun key => rfl, waiting, by simpa using holds⟩
  | cons a rest ih =>
    obtain ⟨next, holds'⟩ := holds.arrive a
    obtain ⟨later, last, ends⟩ := ih holds'
    refine ⟨fun key => ?_, last, by simpa using ends⟩
    have further := later key
    rw [switch_append] at further
    have here := holds.pairing a.1
    by_cases same : a.1.happening.key = key
    · subst same
      rw [if_pos rfl] at further
      simp only [reports]
      rw [List.filter_cons_of_pos (by simp [hasKey]), List.filter_cons_of_pos (by simp [hasKey]), List.map_cons, here,
        further, complaints]
    · rw [if_neg same] at further
      simp only [reports]
      rw [List.filter_cons_of_neg (by simpa [hasKey] using same), List.filter_cons_of_neg (by simpa [hasKey] using same),
        further]

end Waiting

theorem waiting_empty (epsilon : Float) : Waiting { epsilon } [] [] where
  running := rfl
  ordered := .slnil
  opened _ := rfl

theorem quiet_iff (arrivals : List (Arrival × Nat)) :
    ((∀ c ∈ complaints none arrivals, c.2 = []) ∧ arrivals.foldl turn none = none ↔
      Alternates (arrivals.map (·.1.happening.kind))) ∧
    ∀ opening, (∀ c ∈ complaints (some opening) arrivals, c.2 = []) ∧ arrivals.foldl turn (some opening) = none ↔
      ∃ n, (arrivals.map (·.1.happening.kind)).filter (· ≠ .instantaneous) =
        .stop :: (List.replicate n [HappeningKind.start, .stop]).flatten := by
  induction arrivals with
  | nil =>
    constructor
    · simp only [complaints, List.foldl_nil, List.map_nil, Alternates]
      exact ⟨fun _ => ⟨0, rfl⟩, fun _ => by simp⟩
    · simp [complaints]
  | cons a rest ih =>
    obtain ⟨closed, opened⟩ := ih
    rw [Alternates] at closed ⊢
    simp only [complaints, List.forall_mem_cons, List.foldl_cons, List.map_cons]
    cases kind : a.1.happening.kind with
    | start =>
      constructor
      · have isOpen := opened a
        simp only [complaint, turn, kind, true_and, ne_eq, reduceCtorEq, not_false_eq_true, decide_true,
          List.filter_cons_of_pos] at isOpen ⊢
        rw [isOpen]
        constructor
        · rintro ⟨n, same⟩
          exact ⟨n + 1, by rw [same]; rfl⟩
        · rintro ⟨n, same⟩
          cases n with
          | zero => cases same
          | succ n => exact ⟨n, (List.cons.inj same).2⟩
      · simp [complaint, kind]
    | stop =>
      constructor
      · simp only [complaint, kind, ne_eq, reduceCtorEq, not_false_eq_true, decide_true, List.filter_cons_of_pos]
        constructor
        · simp
        · rintro ⟨n, same⟩
          cases n <;> cases same
      · intro opening
        simpa [complaint, turn, kind] using closed
    | instantaneous => exact ⟨by simpa [complaint, turn, kind] using closed, by simpa [complaint, turn, kind] using opened⟩

theorem nothing_wrong_iff {reports : List Report} {arrivals waiting : List (Arrival × Nat)}
    (alone : ∀ key, (reports.filter (hasKey key ·.arrival)).map (fun r => (r.arrival, r.pairing)) =
      complaints none (arrivals.filter (hasKey key)))
    (opened : ∀ key, waiting.filter (hasKey key) = ((arrivals.filter (hasKey key)).foldl turn none).toList) :
    (∀ r ∈ reports, r.pairing = []) ∧ waiting = [] ↔
      ∀ key, Alternates ((arrivals.filter (hasKey key)).map (·.1.happening.kind)) := by
  have ownKey (a : Arrival × Nat) : hasKey a.1.happening.key a = true := by simp [hasKey]
  have silent : (∀ r ∈ reports, r.pairing = []) ↔
      ∀ key, ∀ c ∈ complaints none (arrivals.filter (hasKey key)), c.2 = [] := by
    constructor
    · intro nothing key c member
      rw [← alone key] at member
      obtain ⟨r, isReport, rfl⟩ := List.mem_map.mp member
      exact nothing r (List.mem_filter.mp isReport).1
    · intro nothing r member
      refine nothing r.arrival.1.happening.key (r.arrival, r.pairing) ?_
      rw [← alone]
      exact List.mem_map.mpr ⟨r, List.mem_filter.mpr ⟨member, ownKey r.arrival⟩, rfl⟩
  have ended : waiting = [] ↔ ∀ key, (arrivals.filter (hasKey key)).foldl turn none = none := by
    constructor
    · rintro rfl key
      have closed := opened key
      rwa [List.filter_nil, eq_comm, Option.toList_eq_nil_iff] at closed
    · intro closed
      rw [List.eq_nil_iff_forall_not_mem]
      intro a member
      have own := opened a.1.happening.key
      rw [closed, Option.toList_none, List.filter_eq_nil_iff] at own
      exact own a member (ownKey a)
  rw [silent, ended, ← forall_and]
  exact forall_congr' fun key => (quiet_iff _).1

/-- Whatever arrives in between and at whatever times, the starts and ends of a key are checked as if they were alone,
by a switch that is open or closed. In the end there is one issue for each switch that is still open, in the order in
which they were opened. So nothing is wrong with the pairs exactly if the starts and ends of every key alternate. -/
theorem keys_are_paired_alone (epsilon : Float) (arrivals : List Arrival) (stop : Range) :
    let reports := reports { epsilon } arrivals.zipIdx
    let ofKey (key : String × Nat) := arrivals.zipIdx.filter (hasKey key)
    ∃ waiting : List (Arrival × Nat),
      ((arrivals.foldl arrive { epsilon }).finish stop).2 =
          reports.flatMap (fun r => r.time ++ r.pairing) ++ waiting.map (neverEnds stop ·.1.happening) ∧
        (∀ key, (reports.filter (hasKey key ·.arrival)).map (fun r => (r.arrival, r.pairing)) =
          complaints none (ofKey key)) ∧
        waiting.Sublist arrivals.zipIdx ∧
        (∀ key, waiting.filter (hasKey key) = ((ofKey key).foldl turn none).toList) ∧
        ((∀ r ∈ reports, r.pairing = []) ∧ waiting = [] ↔
          ∀ key, Alternates ((ofKey key).map (·.1.happening.kind))) := by
  intro reports ofKey
  have unnumbered : arrivals.zipIdx.map Prod.fst = arrivals := by simp
  obtain ⟨run, waiting, holds⟩ := (waiting_empty epsilon).run arrivals.zipIdx
  have alone : ∀ key, (reports.filter (hasKey key ·.arrival)).map (fun r => (r.arrival, r.pairing)) =
      complaints none (ofKey key) := run
  have issues := issues_arrive { epsilon } arrivals.zipIdx
  rw [unnumbered] at issues holds
  refine ⟨waiting, ?_, alone, holds.ordered, holds.opened, nothing_wrong_iff alone holds.opened⟩
  rw [finish, issues, holds.running, List.map_map]
  rfl

end Timeline
end PddlAssist
