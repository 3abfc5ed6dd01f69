import UsageBilling.Proofs.Chronicle
import UsageBilling.Proofs.Requests
import UsageBilling.Proofs.Stamps

/-!
# Programs in lockstep

Two executions are compared by what is seen of time stamps, and apart from whether
notifications go out. What remains of a happening is its essence: a stamp is what
is seen of it, and a notification is only handed over. Two programs go in lockstep
if they ask the same at every step, as long as the answers have the same essence.
Around collaborators that agree apart from the delivery of notifications, and as
far as stamps are seen, such programs take courses of the same essence.
-/

namespace UsageBilling

open Calendar (Instant)

/-! ## The essence of a happening -/

section Essence

/-- What remains of a happening apart from what is not seen of time stamps and from whether a
notification goes out. -/
def Happening.essence (see : Instant → Instant) : Happening → Happening
  | .exchange (.seed failures) answer => .exchange (.seed (seenFailures see failures)) answer
  | .exchange (.submit token batch) answer =>
    .exchange (.submit token batch) (answer.map (seenFailures see))
  | .exchange (.page cursor limit) answer =>
    .exchange (.page cursor limit) (answer.map (FailurePage.seen see))
  | .exchange .listAll answer => .exchange .listAll (answer.map (seenRows see))
  | .exchange .wallClock answer => .exchange .wallClock (answer.seen see)
  | .exchange (.notify channel summary) _ => .exchange (.notify channel summary) (.ok ())
  | .exchange (.observe (.escalation _)) answer => .exchange (.observe (.escalation "")) answer
  | .arrival payload message now => .arrival payload message (see now)
  | h => h

/-- The happenings are the same as far as stamps are seen, and apart from whether notifications go
out. -/
def Alike (see : Instant → Instant) (course course' : List Happening) : Prop :=
  course.map (·.essence see) = course'.map (·.essence see)

/-- The requests are the same as far as stamps are seen, and apart from how a notification is
counted. -/
inductive Request.Alike (see : Instant → Instant) : Request → Request → Prop where
  | same (r : Request) : Alike see r r
  | seed {failures failures' : List UsageFailure}
      (same : seenFailures see failures = seenFailures see failures') :
      Alike see (.seed failures) (.seed failures')
  | escalation (status status' : String) :
      Alike see (.observe (.escalation status)) (.observe (.escalation status'))

variable {see : Instant → Instant} {course course' past past' : List Happening}

theorem Alike.append {first first' second second' : List Happening} (h : Alike see first first')
    (h' : Alike see second second') : Alike see (first ++ second) (first' ++ second') := by
  rw [Alike, List.map_append, List.map_append, h, h']

theorem Alike.singleton {h h' : Happening} (same : h.essence see = h'.essence see) :
    Alike see [h] [h'] :=
  congrArg (fun h => [h]) same

/-- What can be read off the essence is the same in courses that are alike. -/
theorem Alike.filterMap_eq {β : Type} (h : Alike see course course') {f : Happening → Option β}
    (essential : ∀ h : Happening, f (h.essence see) = f h) :
    course.filterMap f = course'.filterMap f := by
  have read_off (course : List Happening) :
      (course.map (·.essence see)).filterMap f = course.filterMap f := by
    rw [List.filterMap_map]
    exact List.filterMap_congr fun h _ => essential h
  rw [← read_off, h, read_off]

/-- The queue is the same as far as its stamps are seen. -/
theorem FailureQueue.after_seen (q : FailureQueue) (h : Happening) :
    (q.after h).seen see = (q.seen see).after (h.essence see) := by
  cases h with
  | arrival payload message now => exact (q.push_seen see payload message now).symm
  | ended failed => rfl
  | exchange r answer =>
    cases r with
    | seed failures =>
      cases answer with
      | error e => rfl
      | ok _ =>
        show (((q.seed failures).toOption).getD q).seen see =
          (((q.seen see).seed (seenFailures see failures)).toOption).getD (q.seen see)
        rw [q.seed_seen]
        cases q.seed failures <;> rfl
    | clear => cases answer <;> rfl
    | observe o => cases o <;> rfl
    | _ => rfl

/-- A whole course changes what is seen of the queue as its essence does. -/
theorem FailureQueue.afterAll_seen (q : FailureQueue) (course : List Happening) :
    (q.afterAll course).seen see = (q.seen see).afterAll (course.map (·.essence see)) := by
  induction course generalizing q with
  | nil => rfl
  | cons h course ih =>
    rw [afterAll_cons, ih, after_seen]
    rfl

/-- Whether the guard is held can be read off the essence. -/
theorem guardAfter_essence (held : Bool) (h : Happening) :
    guardAfter held (h.essence see) = guardAfter held h := by
  cases h with
  | exchange r answer =>
    cases r with
    | observe o => cases o <;> rfl
    | _ => rfl
  | _ => rfl

/-- After courses that are alike the guard is held in both or in neither. -/
theorem Alike.guard_eq (h : Alike see past past') :
    past.foldl guardAfter false = past'.foldl guardAfter false := by
  have read_off (past : Chronicle) :
      (past.map (·.essence see)).foldl guardAfter false = past.foldl guardAfter false := by
    simp [List.foldl_map, guardAfter_essence]
  rw [← read_off, h, read_off]

end Essence

/-! ## Collaborators -/

namespace Collaborators

/-- The collaborators agree as far as stamps are seen and apart from the delivery of notifications:
deliveries may succeed or fail in any way, and nobody else's answers depend on them, nor on what is not
seen of stamps. -/
structure AgreeButForDelivery (see : Instant → Instant) (c c' : Collaborators) : Prop where
  queue : c.queue.seen see = c'.queue.seen see
  answer : ∀ {past past' : Chronicle} (r : Request), Alike see past past' → r.isGuard = false →
    r.isQueue = false → (Happening.exchange r (c.answer past r)).essence see =
      (Happening.exchange r (c'.answer past' r)).essence see
  refusal : ∀ {past past' : Chronicle} {r r' : Request}, Alike see past past' → r.Alike see r' →
    c.refusal past r = c'.refusal past' r'
  arrivals : ∀ {past past' : Chronicle}, Alike see past past' →
    (c.arrivals past).map (fun row => (row.1, row.2.1, see row.2.2)) =
      (c'.arrivals past').map fun row => (row.1, row.2.1, see row.2.2)

variable {see : Instant → Instant} {c c' : Collaborators} {past past' : Chronicle} {r r' : Request}

/-- The queues look the same at every point of courses that are alike. -/
theorem AgreeButForDelivery.queueAt_seen (agree : AgreeButForDelivery see c c')
    (alike : Alike see past past') :
    (c.queueAt past).seen see = (c'.queueAt past').seen see := by
  rw [queueAt, queueAt, FailureQueue.afterAll_seen, FailureQueue.afterAll_seen, agree.queue, alike]

/-- Requests that are alike are refused alike. -/
theorem AgreeButForDelivery.unlessRefused {α β : Type} (agree : AgreeButForDelivery see c c')
    (alike : Alike see past past') (requests : r.Alike see r') {answer answer' : Except ServiceError α}
    (view : Except ServiceError α → β) (same : view answer = view answer') :
    view (c.unlessRefused past r answer) = view (c'.unlessRefused past' r' answer') := by
  rw [Collaborators.unlessRefused, Collaborators.unlessRefused, agree.refusal alike requests]
  cases c'.refusal past' r' with
  | none => exact same
  | some e => rfl

/-- Failures that look the same are stored or refused alike. -/
theorem AgreeButForDelivery.reply_seed {failures failures' : List UsageFailure}
    (agree : AgreeButForDelivery see c c') (alike : Alike see past past')
    (same : seenFailures see failures = seenFailures see failures') :
    c.reply past (.seed failures) = c'.reply past' (.seed failures') := by
  refine agree.unlessRefused alike (.seed same) id ?_
  show ((c.queueAt past).seed failures).map (fun _ => ()) =
    ((c'.queueAt past').seed failures').map fun _ => ()
  rw [← FailureQueue.seed_accepts_seen, agree.queueAt_seen alike, same,
    FailureQueue.seed_accepts_seen]

/-- Requests that are alike are answered alike. -/
theorem AgreeButForDelivery.reply (agree : AgreeButForDelivery see c c')
    (alike : Alike see past past') (requests : r.Alike see r') :
    (Happening.exchange r (c.reply past r)).essence see =
      (Happening.exchange r' (c'.reply past' r')).essence see := by
  have queue := agree.queueAt_seen alike
  cases requests with
  | escalation => rfl
  | @seed failures failures' same =>
    show Happening.exchange (.seed (seenFailures see failures)) (c.reply past (.seed failures)) =
      .exchange (.seed (seenFailures see failures')) (c'.reply past' (.seed failures'))
    rw [agree.reply_seed alike same, same]
  | same r =>
    cases r with
    | takeGuard =>
      refine congrArg (Happening.exchange .takeGuard) ?_
      show (!past.foldl guardAfter false) = !past'.foldl guardAfter false
      rw [alike.guard_eq]
    | page cursor limit =>
      refine congrArg (Happening.exchange (.page cursor limit)) ?_
      refine agree.unlessRefused alike (.same _) (Except.map (FailurePage.seen see)) ?_
      refine congrArg Except.ok ?_
      rw [← FailureQueue.page_seen, queue, FailureQueue.page_seen]
    | seed failures =>
      exact congrArg (Happening.exchange (.seed (seenFailures see failures)))
        (agree.reply_seed alike rfl)
    | clear =>
      exact congrArg (Happening.exchange .clear)
        (agree.unlessRefused alike (.same _) id rfl)
    | listAll =>
      refine congrArg (Happening.exchange .listAll) ?_
      refine agree.unlessRefused alike (.same _) (Except.map (seenRows see)) ?_
      exact congrArg (fun q : FailureQueue => Except.ok q.rows) queue
    | releaseGuard => rfl
    | _ => exact agree.answer _ alike rfl rfl

/-- What others do meanwhile is the same as far as stamps are seen. -/
theorem AgreeButForDelivery.meanwhile (agree : AgreeButForDelivery see c c')
    (alike : Alike see past past') (requests : r.Alike see r') :
    Alike see (c.meanwhile past r) (c'.meanwhile past' r') := by
  have pauses : r.isPause = r'.isPause := by cases requests <;> rfl
  have read_off (rows : List (String × String × Instant)) :
      (rows.map fun row => Happening.arrival row.1 row.2.1 row.2.2).map (·.essence see) =
        (rows.map fun row => (row.1, row.2.1, see row.2.2)).map fun row =>
          .arrival row.1 row.2.1 row.2.2 := by
    simp [Happening.essence]
  rw [Collaborators.meanwhile, Collaborators.meanwhile, pauses]
  split
  · rw [Alike, read_off, read_off, agree.arrivals alike]
  · rfl

end Collaborators

/-! ## Lockstep -/

/-- The programs ask the same at every step, as long as the answers have the same essence, and come to
results that look the same. -/
inductive Program.Lockstep {α γ : Type} (see : Instant → Instant) (view : α → γ) :
    Action α → Action α → Prop where
  | done {a a' : α} (same : view a = view a') : Lockstep see view (.done a) (.done a')
  | crash (reason : Crash) : Lockstep see view (.crash reason) (.crash reason)
  | ask {r r' : Request} {next : r.Answer → Action α} {next' : r'.Answer → Action α}
      (alike : r.Alike see r')
      (later : ∀ answer answer', (Happening.exchange r answer).essence see =
        (Happening.exchange r' answer').essence see → Lockstep see view (next answer) (next' answer')) :
      Lockstep see view (.ask r next) (.ask r' next')

namespace Program

variable {see : Instant → Instant} {α β γ δ : Type} {view : α → γ} {view' : β → δ} {p p' : Action α}

/-- Programs in lockstep come to results that look the same, in courses that are alike. -/
theorem Lockstep.does {c c' : Collaborators} (agree : c.AgreeButForDelivery see c')
    (h : Lockstep see view p p') {past past' : Chronicle} {course course' : List Happening}
    {result result' : Except Crash α} (alike : Alike see past past') (does : c.Does p past result course)
    (does' : c'.Does p' past' result' course') :
    result.map view = result'.map view ∧ Alike see course course' := by
  induction h generalizing past past' course course' with
  | @done a a' same =>
    obtain ⟨rfl, rfl⟩ := Collaborators.does_done.1 does
    obtain ⟨rfl, rfl⟩ := Collaborators.does_done.1 does'
    exact ⟨congrArg Except.ok same, rfl⟩
  | crash reason =>
    obtain ⟨rfl, rfl⟩ := Collaborators.does_crash.1 does
    obtain ⟨rfl, rfl⟩ := Collaborators.does_crash.1 does'
    exact ⟨rfl, rfl⟩
  | @ask r r' next next' requests _ ih =>
    obtain ⟨answer, rest, rfl, rfl, continued⟩ := does.ask
    obtain ⟨answer', rest', rfl, rfl, continued'⟩ := does'.ask
    have others := agree.meanwhile alike requests
    have answers := agree.reply (alike.append others) requests
    have so_far := others.append (.singleton answers)
    obtain ⟨results, later⟩ := ih _ _ answers (alike.append so_far) continued continued'
    exact ⟨results, by simpa using so_far.append later⟩

theorem Lockstep.bind {f f' : α → Action β} (h : Lockstep see view p p')
    (h' : ∀ a a', view a = view a' → Lockstep see view' (f a) (f' a')) :
    Lockstep see view' (p >>= f) (p' >>= f') := by
  induction h with
  | done same => exact h' _ _ same
  | crash reason => exact .crash reason
  | ask alike _ ih => exact .ask alike ih

/-- Both programs ask what they ensure, however they end. -/
theorem Lockstep.ensuring {r : Request} (h : Lockstep see view p p') :
    Lockstep see view (Program.ensuring (I := surroundings) r p)
      (Program.ensuring (I := surroundings) r p') := by
  induction h with
  | done same => exact .ask (.same r) fun _ _ _ => .done same
  | crash reason => exact .ask (.same r) fun _ _ _ => .crash reason
  | ask alike _ ih => exact .ask alike ih

end Program

namespace Billing

open Program (Lockstep)

variable {see : Instant → Instant} {α β γ δ : Type} {view : α → γ} {view' : β → δ}

/-- A request and what follows it. -/
theorem lockstep_askThen {r r' : Request} {f : r.Answer → Action β} {f' : r'.Answer → Action β}
    (alike : r.Alike see r') (h : ∀ answer answer', (Happening.exchange r answer).essence see =
      (Happening.exchange r' answer').essence see → Lockstep see view' (f answer) (f' answer')) :
    Lockstep see view' (ask r >>= f) (ask r' >>= f') :=
  .ask alike h

/-- An error ends both programs. -/
theorem lockstep_then {p p' : Billing α} {f f' : α → Billing β}
    (h : Lockstep see (Except.map view) p.run p'.run)
    (h' : ∀ a a', view a = view a' → Lockstep see (Except.map view') (f a).run (f' a').run) :
    Lockstep see (Except.map view') (p >>= f).run (p' >>= f').run := by
  refine h.bind fun outcome outcome' same => ?_
  cases outcome with
  | ok a =>
    cases outcome' with
    | ok a' => exact h' a a' (Except.ok.inj same)
    | error e' => cases same
  | error e =>
    cases outcome' with
    | ok a' => cases same
    | error e' =>
      obtain rfl := Except.error.inj same
      exact .done rfl

theorem lockstep_always {p p' : Action α} (h : Lockstep see view p p') :
    Lockstep see (Except.map view) (always p).run (always p').run :=
  h.bind fun _ _ same => .done (congrArg Except.ok same)

theorem lockstep_alwaysThen {p p' : Action α} {f f' : α → Billing β} (h : Lockstep see view p p')
    (h' : ∀ a a', view a = view a' → Lockstep see (Except.map view') (f a).run (f' a').run) :
    Lockstep see (Except.map view') (always p >>= f).run (always p' >>= f').run :=
  lockstep_then (lockstep_always h) h'

theorem lockstep_discardThen {p p' : Action α} {f f' : Unit → Billing β} (h : Lockstep see view p p')
    (h' : Lockstep see (Except.map view') (f ()).run (f' ()).run) :
    Lockstep see (Except.map view') (discard (always p) >>= f).run (discard (always p') >>= f').run := by
  have first : Lockstep see (Except.map fun _ : Unit => ()) (discard (always p)).run
      (discard (always p')).run :=
    lockstep_then (lockstep_always h) fun _ _ _ => .done rfl
  exact lockstep_then first fun _ _ _ => h'

theorem lockstep_pure {a a' : α} (same : view a = view a') :
    Lockstep see (Except.map view) (pure a : Billing α).run (pure a' : Billing α).run :=
  .done (congrArg Except.ok same)

end Billing

end UsageBilling
