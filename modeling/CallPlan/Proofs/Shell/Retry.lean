import CallPlan.Proofs.Json.Received
import CallPlan.Proofs.Number.PowerOfTwo
import CallPlan.Shell
import Mathlib.Data.ENat.Lattice

/-!
# CallPlan.Proofs.Shell.Retry

How often a message is sent, and how long the shell waits in between.

* `Console.logged` keeps a log of what is asked of a console; keeping it changes nothing
  (`persist_logged`). `Console.Follows` says what comes of it: of the documents that are posted, one
  after the other, and of each pause and each text.
* An attempt that finds no connection is followed by a pause and the next one (`persist_again`). Any
  other attempt, and the last one that is allowed, settles the answer (`persist_last`), which is
  `Shell.verdict` of what came of it. A run of attempts is some of the first kind and one of the
  second (`persist_run`).
* `ask_retries` counts them, and says how long the pauses are.
-/

namespace CallPlan

variable {σ : Type}

/-! ### What is done on a console -/

/-- Something that is asked of a console, whether or not it can be done. -/
inductive ShellEvent where
  /-- A client got ready to post, and to wait for a reply so many seconds. -/
  | started (seconds : Json)
  /-- A document was posted, and this came of it. -/
  | posted (request : PostRequest) (outcome : Except Lapse HttpReply)
  | paused (seconds : Binary64)
  | printed (text : String)

namespace ShellEvent

def isPosted : ShellEvent → Bool
  | .posted .. => true
  | _ => false

def isPaused : ShellEvent → Bool
  | .paused _ => true
  | _ => false

end ShellEvent

namespace Console

/-- A console that keeps, beside its world, a log of what is asked of it. -/
def logged (console : Console σ) : Console (σ × List ShellEvent) where
  print text world :=
    let (shown, after) := console.print text world.1
    (shown, after, world.2 ++ [.printed text])
  client :=
    { depth := console.client.depth
      start := fun seconds world =>
        (console.client.start seconds world.1, world.2 ++ [.started seconds])
      post := fun request world =>
        let (outcome, after) := console.client.post request world.1
        (outcome, after, world.2 ++ [.posted request outcome]) }
  pause seconds world :=
    let (made, after) := console.pause seconds world.1
    (made, after, world.2 ++ [.paused seconds])

theorem logged_pause (console : Console σ) (seconds : Binary64) (world : σ × List ShellEvent) :
    console.logged.pause seconds world
      = ((console.pause seconds world.1).1, (console.pause seconds world.1).2,
        world.2 ++ [.paused seconds]) := rfl

/-- What comes of what is asked of a console. -/
structure Course where
  /-- What comes of the documents that are posted, one after the other. -/
  posted : Nat → Except Lapse HttpReply
  paused : Binary64 → Except Failure Unit
  printed : String → Except Failure Unit

/-- What is asked of a console comes to what a course says; `position` says how many documents have
been posted. -/
structure Follows (console : Console σ) (course : Course) (position : σ → Nat) : Prop where
  start : ∀ seconds world, position (console.client.start seconds world) = position world
  post : ∀ request world, (console.client.post request world).1 = course.posted (position world) ∧
    position (console.client.post request world).2 = position world + 1
  pause : ∀ seconds world, (console.pause seconds world).1 = course.paused seconds ∧
    position (console.pause seconds world).2 = position world
  print : ∀ text world, (console.print text world).1 = course.printed text ∧
    position (console.print text world).2 = position world

end Console

namespace Shell

/-! ### The last attempt -/

/-- What a message comes to. -/
inductive Verdict where
  | answer (value : Json)
  /-- The reply is a complaint, which is shown as well. -/
  | complaint (text : String)
  | fault (failure : Failure)

namespace Verdict

/-- The result of sending, where showing a text comes to `printed`. -/
def result (printed : String → Except Failure Unit) : Verdict → Except Failure Json
  | .answer value => .ok value
  | .complaint text => (printed (Colour.red.line text)).map fun () => reply text
  | .fault failure => .error failure

def shown : Verdict → List ShellEvent
  | .complaint text => [.printed (Colour.red.line text)]
  | _ => []

end Verdict

/-- What a response comes to, for a client that can follow it to a depth. -/
def concluded (depth : Nat) (url : Url) (response : HttpReply) : Verdict :=
  if Http.isSuccess response.status then
    match response.json depth with
    | .ok value => .answer value
    | .error e => .fault (unreadable response e)
  else
    match detail depth url response with
    | .ok cause => .complaint ("API error: " ++ cause.display)
    | .error failure => .fault failure

/-- What a last attempt comes to. -/
def verdict (depth : Nat) : Except Lapse (Url × HttpReply) → Verdict
  | .ok (url, response) => concluded depth url response
  | .error (.unreachable message) | .error (.broken message) =>
    .complaint (connectionComplaint message)
  | .error (.refused failure) | .error (.failed failure) => .fault failure

/-- A detail that was read, or what a status says, can be written. -/
theorem isShort_of_detail {depth : Nat} {url : Url} {response : HttpReply} {cause : Json}
    (detailed : detail depth url response = .ok cause) : cause.isShort = true := by
  unfold detail at detailed
  split at detailed
  next members json =>
    cases detailed
    cases named : Members.get? members "detail" with
    | none => exact Json.isShort_str _
    | some value => exact Json.isShort_of_get? (Json.isShort_of_readSent json) named
  next => cases detailed
  next => cases detailed
  next =>
    cases detailed
    exact Json.isShort_str _

section
variable {console : Console σ} {course : Console.Course} {position : σ → Nat}

theorem complain_logged (follows : console.Follows course position) (text : String) (world : σ)
    (log : List ShellEvent) :
    ∃ after, complain console.logged text (world, log)
      = ((Verdict.complaint text).result course.printed, after,
        log ++ (Verdict.complaint text).shown) := by
  refine ⟨(console.print (Colour.red.line text) world).2, ?_⟩
  rw [Verdict.result, ← (follows.print (Colour.red.line text) world).1]
  rfl

theorem conclude_logged (follows : console.Follows course position) (url : Url)
    (response : HttpReply) (world : σ) (log : List ShellEvent) :
    ∃ after, conclude console.logged url response (world, log)
      = ((concluded console.client.depth url response).result course.printed, after,
        log ++ (concluded console.client.depth url response).shown) := by
  have same_depth : console.logged.client.depth = console.client.depth := rfl
  unfold conclude concluded
  rw [same_depth]
  split
  · cases response.json console.client.depth with
    | ok value => exact ⟨world, by simp [Verdict.result, Verdict.shown]⟩
    | error e => exact ⟨world, by simp [Verdict.result, Verdict.shown]⟩
  · cases detailed : detail console.client.depth url response with
    | ok cause =>
        dsimp only
        rw [Json.spelled_of_isShort (isShort_of_detail detailed)]
        exact complain_logged follows _ world log
    | error failure => exact ⟨world, by simp [Verdict.result, Verdict.shown]⟩

/-! ### Keeping a log -/

theorem exchange_logged (patience address body : Json) (world : σ × List ShellEvent) :
    console.client.exchange patience address body world.1
      = ((console.logged.client.exchange patience address body world).1,
        (console.logged.client.exchange patience address body world).2.1) := by
  unfold Client.exchange
  cases address with
  | str address =>
      dsimp only [Console.logged]
      cases PostRequest.prepare address body <;> rfl
  | _ => rfl

theorem conclude_seen (url : Url) (response : HttpReply) (world : σ × List ShellEvent) :
    conclude console url response world.1
      = ((conclude console.logged url response world).1,
        (conclude console.logged url response world).2.1) := by
  have same_depth : console.logged.client.depth = console.client.depth := rfl
  unfold conclude
  rw [same_depth]
  split
  · cases response.json console.client.depth <;> rfl
  · cases detail console.client.depth url response with
    | error failure => rfl
    | ok cause =>
        dsimp only
        cases cause.spelled Json.display <;> rfl

theorem persist_logged (address body : Json) (limit : Int) (attempt remaining : Nat)
    (world : σ × List ShellEvent) :
    persist console address body limit attempt remaining world.1
      = ((persist console.logged address body limit attempt remaining world).1,
        (persist console.logged address body limit attempt remaining world).2.1) := by
  induction remaining generalizing attempt world with
  | zero =>
      rw [persist, persist]
      cases (Json.int limit).spelled Json.display <;> rfl
  | succ remaining ih =>
      rw [persist, persist, exchange_logged]
      cases console.logged.client.exchange patience address body world with
      | mk outcome world =>
          match outcome with
          | .ok (url, response) => exact conclude_seen url response world
          | .error (.broken message) | .error (.refused failure) | .error (.failed failure) => rfl
          | .error (.unreachable message) =>
              dsimp only
              split
              · rfl
              · cases pauseAfter attempt with
                | error failure => rfl
                | ok seconds =>
                    dsimp only
                    rw [Console.logged_pause]
                    cases console.pause seconds world.1 with
                    | mk made after =>
                        cases made with
                        | error failure => rfl
                        | ok => exact ih (attempt + 1) (after, world.2 ++ [.paused seconds])

/-! ### Attempts -/

/-- No connection could be made. -/
def Unreached {α : Type} (outcome : Except Lapse α) : Prop :=
  ∃ message, outcome = .error (.unreachable message)

/-- What is done in an attempt. -/
def attempted (request : PostRequest) (outcome : Except Lapse HttpReply) : List ShellEvent :=
  [.started patience, .posted request outcome]

/-- What is done in an attempt that another one follows. -/
def failedAttempt (request : PostRequest) (outcome : Except Lapse HttpReply)
    (pause : Binary64) : List ShellEvent :=
  attempted request outcome ++ [.paused pause]

theorem headerLapse?_reached (headers : Members) (message : String) :
    HttpReply.headerLapse? headers ≠ some (.unreachable message) := by
  fun_induction HttpReply.headerLapse? headers <;> simp_all

theorem locationLapse?_reached (response : HttpReply) (message : String) :
    response.locationLapse? ≠ some (.unreachable message) := by
  fun_cases HttpReply.locationLapse? response <;> simp_all

/-- What makes a client refuse a reply is something about the reply. -/
theorem accept_reached (url : Url) (response : HttpReply) :
    ¬ Unreached (Client.accept url response) := by
  rintro ⟨message, unreached⟩
  unfold Client.accept at unreached
  cases headers : HttpReply.headerLapse? response.headers with
  | some lapse =>
      rw [headers] at unreached
      cases unreached
      exact headerLapse?_reached _ _ headers
  | none =>
      rw [headers] at unreached
      dsimp only at unreached
      split at unreached
      · cases unreached
      · cases location : response.locationLapse? with
        | some lapse =>
            rw [location] at unreached
            cases unreached
            exact locationLapse?_reached _ _ location
        | none =>
            rw [location] at unreached
            cases unreached

theorem unreached_bind_accept (url : Url) (outcome : Except Lapse HttpReply) :
    Unreached (outcome.bind (Client.accept url)) ↔ Unreached outcome := by
  cases outcome with
  | error lapse => simp [Unreached, Except.bind]
  | ok response =>
      refine ⟨fun unreached => absurd unreached (accept_reached url response), ?_⟩
      rintro ⟨message, ⟨⟩⟩

theorem prepare_reached (address : String) (body : Json) :
    ¬ Unreached (PostRequest.prepare address body) := by
  rintro ⟨message, unreached⟩
  unfold PostRequest.prepare at unreached
  split at unreached
  · cases unreached
  · split at unreached
    · cases unreached
    · split at unreached <;> cases unreached

/-- An attempt that is settled settles the answer. -/
theorem persist_settled (follows : console.Follows course position) {address body : Json}
    {limit : Int} {attempt remaining : Nat} {outcome : Except Lapse (Url × HttpReply)}
    {world world' : σ × List ShellEvent}
    (exchanged : console.logged.client.exchange patience address body world = (outcome, world'))
    (settled : remaining = 0 ∨ ¬ Unreached outcome) :
    ∃ after, persist console.logged address body limit attempt (remaining + 1) world
      = ((verdict console.client.depth outcome).result course.printed, after,
        world'.2 ++ (verdict console.client.depth outcome).shown) := by
  rw [persist, exchanged]
  match outcome with
  | .ok (url, response) => exact conclude_logged follows url response world'.1 world'.2
  | .error (.broken message) => exact complain_logged follows _ world'.1 world'.2
  | .error (.refused failure) | .error (.failed failure) =>
      exact ⟨world'.1, by simp [verdict, Verdict.result, Verdict.shown]⟩
  | .error (.unreachable message) =>
      -- Without a connection an attempt is settled only if no other one is allowed.
      have last : remaining = 0 := settled.resolve_right fun reached => reached ⟨message, rfl⟩
      dsimp only
      rw [if_pos last]
      exact complain_logged follows _ world'.1 world'.2

/-! ### Pauses -/

/-- Half a second, doubled so many times. -/
def backoff (j : Nat) : Binary64 := .ofRatio false (2 ^ j) 2

theorem pauseAfter_eq {attempt : Nat} (few : attempt < 1024) :
    pauseAfter attempt = .ok (backoff attempt) := by
  have finite : (Binary64.ofRatio false (2 ^ attempt) (2 ^ 0)).isFinite = true :=
    Binary64.isFinite_ofRatio_pow (by omega) (by omega)
  exact if_pos finite

theorem pauseAfter_eq_beyond {attempt : Nat} (many : 1024 ≤ attempt) :
    pauseAfter attempt = .error .beyondRange := by
  have infinite : (Binary64.ofRatio false (2 ^ attempt) (2 ^ 0)).isFinite = false :=
    Binary64.isFinite_ofRatio_pow_of_lt (by omega)
  exact if_neg (ne_true_of_eq_false infinite)

theorem value?_backoff {j : Nat} (few : j < 1024) : (backoff j).value? = some (1 / 2 * 2 ^ j) := by
  calc (backoff j).value?
      = (Binary64.ofRatio false (2 ^ j) (2 ^ 1)).value? := rfl
    _ = some (2 ^ j / 2 ^ 1) := Binary64.value?_ofRatio_pow (by omega) (by omega)
    _ = some (1 / 2 * 2 ^ j) := by rw [pow_one, one_div_mul_eq_div]

/-- What the pause after an attempt comes to. One that is beyond the range of numbers fails before
it begins. -/
def pauseOf (course : Console.Course) (attempt : Nat) : Except Failure Unit :=
  if attempt < 1024 then course.paused (backoff attempt) else .error .beyondRange

theorem pauseOf_eq_ok_iff {attempt : Nat} :
    pauseOf course attempt = .ok () ↔
      attempt < 1024 ∧ course.paused (backoff attempt) = .ok () := by
  unfold pauseOf
  split <;> simp [*]

/-! ### Runs of attempts -/

variable {address : String} {body : Json} {request : PostRequest}

/-- A document that cannot be sent is tried once. -/
theorem persist_unprepared (follows : console.Follows course position) {lapse : Lapse}
    (unprepared : PostRequest.prepare address body = .error lapse) (limit : Int)
    (attempt remaining : Nat) (world : σ) (log : List ShellEvent) :
    ∃ after, persist console.logged (.str address) body limit attempt (remaining + 1) (world, log)
      = ((verdict console.client.depth (.error lapse)).result course.printed, after,
        log ++ [.started patience] ++ (verdict console.client.depth (.error lapse)).shown) := by
  have exchanged : console.logged.client.exchange patience (.str address) body (world, log)
      = (.error lapse, console.client.start patience world, log ++ [.started patience]) := by
    unfold Client.exchange
    dsimp only [Console.logged]
    rw [unprepared]
  refine persist_settled follows exchanged (.inr ?_)
  rintro ⟨message, ⟨⟩⟩
  exact prepare_reached address body ⟨message, unprepared⟩

theorem exchange_prepared (follows : console.Follows course position)
    (prepared : PostRequest.prepare address body = .ok request) (world : σ)
    (log : List ShellEvent) :
    ∃ after, position after = position world + 1 ∧
      console.logged.client.exchange patience (.str address) body (world, log)
        = ((course.posted (position world)).bind (Client.accept request.url), after,
          log ++ attempted request (course.posted (position world))) := by
  obtain ⟨outcome, moved⟩ := follows.post request (console.client.start patience world)
  rw [follows.start] at outcome moved
  refine ⟨_, moved, ?_⟩
  unfold Client.exchange
  dsimp only [Console.logged]
  rw [prepared, ← outcome]
  simp [attempted]

/-- After an attempt that finds no connection comes a pause. The next attempt follows if the pause
can be made. -/
theorem persist_unreached (follows : console.Follows course position)
    (prepared : PostRequest.prepare address body = .ok request) (limit : Int)
    {attempt remaining : Nat} {world : σ} (log : List ShellEvent)
    (unreached : Unreached (course.posted (position world))) (more : remaining ≠ 0) :
    (∀ failure, pauseOf course attempt = .error failure →
        (persist console.logged (.str address) body limit attempt (remaining + 1) (world, log)).1
          = .error failure) ∧
      (pauseOf course attempt = .ok () →
        ∃ after, position after = position world + 1 ∧
          persist console.logged (.str address) body limit attempt (remaining + 1) (world, log)
            = persist console.logged (.str address) body limit (attempt + 1) remaining
              (after, log ++ failedAttempt request (course.posted (position world))
                (backoff attempt))) := by
  obtain ⟨after, moved, exchanged⟩ := exchange_prepared follows prepared world log
  obtain ⟨message, unreached⟩ := unreached
  rw [persist, exchanged, unreached]
  simp only [Except.bind, if_neg more]
  obtain ⟨made, stays⟩ := follows.pause (backoff attempt) after
  rw [← moved, ← stays]
  rcases Nat.lt_or_ge attempt 1024 with few | many
  · rw [pauseAfter_eq few, pauseOf, if_pos few, ← made]
    dsimp only
    rw [Console.logged_pause]
    cases console.pause (backoff attempt) after with
    | mk outcome later =>
        cases outcome with
        | error failure =>
            refine ⟨?_, (nomatch ·)⟩
            rintro _ ⟨⟩
            rfl
        | ok =>
            refine ⟨fun _ => (nomatch ·), fun _ => ⟨later, rfl, ?_⟩⟩
            simp only [failedAttempt, List.append_assoc]
  · rw [pauseAfter_eq_beyond many, pauseOf, if_neg (Nat.not_lt.2 many)]
    refine ⟨?_, (nomatch ·)⟩
    rintro _ ⟨⟩
    rfl

/-- An attempt that reaches the service, or is the last one that is allowed, settles the answer. -/
theorem persist_last (follows : console.Follows course position)
    (prepared : PostRequest.prepare address body = .ok request) (limit : Int)
    {attempt remaining : Nat} {world : σ} (log : List ShellEvent)
    (settled : remaining = 0 ∨ ¬ Unreached (course.posted (position world))) :
    let final := verdict console.client.depth
      ((course.posted (position world)).bind (Client.accept request.url))
    ∃ after, persist console.logged (.str address) body limit attempt (remaining + 1) (world, log)
      = (final.result course.printed, after,
        log ++ attempted request (course.posted (position world)) ++ final.shown) := by
  obtain ⟨after, -, exchanged⟩ := exchange_prepared follows prepared world log
  exact persist_settled follows exchanged
    (settled.imp_right (mt (unreached_bind_accept request.url _).mp))

/-- So many attempts that find no connection, where more of them are allowed. -/
theorem persist_retries (follows : console.Follows course position)
    (prepared : PostRequest.prepare address body = .ok request) (limit : Int)
    {failed attempt remaining : Nat} {world : σ} (log : List ShellEvent)
    (more : remaining ≠ 0) (next : position world = attempt)
    (pausing : ∀ i < attempt + failed, attempt ≤ i → pauseOf course i = .ok ())
    (unreached : ∀ i < attempt + failed, attempt ≤ i → Unreached (course.posted i)) :
    ∃ after, position after = attempt + failed ∧
      persist console.logged (.str address) body limit attempt (failed + remaining) (world, log)
        = persist console.logged (.str address) body limit (attempt + failed) remaining
          (after, log ++ (List.range' attempt failed).flatMap
            fun i => failedAttempt request (course.posted i) (backoff i)) := by
  -- On the attempts that fail; how many documents have been posted is the number of the next one.
  induction failed generalizing attempt world log with
  | zero =>
      refine ⟨world, next, ?_⟩
      rw [Nat.zero_add, List.range'_zero, List.flatMap_nil, List.append_nil]
      rfl
  | succ failed ih =>
      subst next
      obtain ⟨after, moved, again⟩ := (persist_unreached follows prepared limit log
        (unreached _ (by omega) (Nat.le_refl _)) (show failed + remaining ≠ 0 by omega)).2
        (pausing _ (by omega) (Nat.le_refl _))
      have shift : position world + (failed + 1) = position world + 1 + failed := by omega
      rw [shift] at pausing unreached ⊢
      obtain ⟨final, reached, rest⟩ := ih
        (log ++ failedAttempt request (course.posted (position world)) (backoff (position world)))
        moved (fun i below above => pausing i below (by omega))
        fun i below above => unreached i below (by omega)
      refine ⟨final, reached, ?_⟩
      rw [Nat.add_right_comm, again, rest, List.range'_succ, List.flatMap_cons]
      simp only [List.append_assoc]

/-- So many attempts that find no connection, and one that settles the answer. -/
theorem persist_run (follows : console.Follows course position)
    (prepared : PostRequest.prepare address body = .ok request) (limit : Int)
    {failed attempt spare : Nat} {world : σ} (log : List ShellEvent)
    (next : position world = attempt)
    (pausing : ∀ i < attempt + failed, attempt ≤ i → pauseOf course i = .ok ())
    (unreached : ∀ i < attempt + failed, attempt ≤ i → Unreached (course.posted i))
    (settled : spare = 0 ∨ ¬ Unreached (course.posted (attempt + failed))) :
    let final := verdict console.client.depth
      ((course.posted (attempt + failed)).bind (Client.accept request.url))
    ∃ after, persist console.logged (.str address) body limit attempt (failed + spare + 1)
        (world, log)
      = (final.result course.printed, after,
        log ++ (List.range' attempt failed).flatMap
            (fun i => failedAttempt request (course.posted i) (backoff i)) ++
          attempted request (course.posted (attempt + failed)) ++ final.shown) := by
  intro final
  obtain ⟨last, reached, retried⟩ := persist_retries follows prepared limit log
    (Nat.succ_ne_zero spare) next pausing unreached
  rw [← reached] at settled
  obtain ⟨after, answered⟩ := persist_last follows prepared limit _ settled
  refine ⟨after, ?_⟩
  rw [Nat.add_assoc, retried, answered, reached]

/-! ### Counting -/

theorem countP_posted_shown (verdict : Verdict) : verdict.shown.countP ShellEvent.isPosted = 0 := by
  cases verdict <;> rfl

theorem countP_paused_shown (verdict : Verdict) : verdict.shown.countP ShellEvent.isPaused = 0 := by
  cases verdict <;> rfl

/-- What is done while a message is sent: so many attempts that another one follows, and the last
one. -/
def sending (request : PostRequest) (posted : Nat → Except Lapse HttpReply) (last : Nat) :
    List ShellEvent :=
  (List.range last).flatMap (fun j => failedAttempt request (posted j) (backoff j)) ++
    attempted request (posted last)

/-- What is done once in every attempt but the last. -/
theorem countP_sending {p : ShellEvent → Bool} (request : PostRequest)
    (posted : Nat → Except Lapse HttpReply) (last : Nat)
    (once : ∀ outcome pause, (failedAttempt request outcome pause).countP p = 1) :
    (sending request posted last).countP p
      = last + (attempted request (posted last)).countP p := by
  rw [sending, List.countP_append, List.countP_flatMap]
  simp [Function.comp_def, once, List.map_const']

/-- The last attempt is the last one allowed, or the first one that finds a connection. -/
theorem exists_last {n : Nat} (allowed : 1 ≤ n) (k : ℕ∞) :
    ∃ last spare : Nat, n = last + spare + 1 ∧ (last : ℕ∞) ≤ k ∧ (spare = 0 ∨ (last : ℕ∞) = k) := by
  cases k with
  | top => exact ⟨n - 1, 0, by omega, le_top, .inl rfl⟩
  | coe k =>
      rcases Nat.lt_or_ge k n with early | late
      · exact ⟨k, n - 1 - k, by omega, le_rfl, .inr rfl⟩
      · exact ⟨n - 1, 0, by omega, by exact_mod_cast (by omega : n - 1 ≤ k), .inl rfl⟩

theorem last_count {n last spare : Nat} {k : ℕ∞} (total : n = last + spare + 1)
    (within : (last : ℕ∞) ≤ k) (ends : spare = 0 ∨ (last : ℕ∞) = k) :
    ((last + 1 : Nat) : ℕ∞) = min (n : ℕ∞) (k + 1) := by
  have succ : ((last + 1 : Nat) : ℕ∞) = last + 1 := Nat.cast_succ last
  rcases ends with rfl | rfl
  · rw [total, Nat.add_zero, succ, min_eq_left (add_le_add_left within 1)]
  · have fewer : ((last + 1 : Nat) : ℕ∞) ≤ n := by exact_mod_cast (by omega : last + 1 ≤ n)
    rw [← succ, min_eq_right fewer]

end

/-! ### Sending a message -/

/-- What sending a message at most `n` times does and what it answers, when the service is not
reached the first `k` times: the attempt `last`, counted from zero, is the last one. -/
structure Retried (course : Console.Course) (depth : Nat) (request : PostRequest) (n : Nat)
    (k : ℕ∞) (last : Nat) (events : List ShellEvent) (answer : Except Failure Json) : Prop where
  count : ((last + 1 : Nat) : ℕ∞) = min (n : ℕ∞) (k + 1)
  posts : events.countP ShellEvent.isPosted = last + 1
  pauses : events.countP ShellEvent.isPaused = last
  /-- The posts and the pauses take turns, beginning and ending with a post. -/
  order : events = sending request course.posted last ++
    (verdict depth ((course.posted last).bind (Client.accept request.url))).shown
  /-- An attempt that another one follows found no connection. -/
  retried : ∀ j < last, Unreached (course.posted j)
  lengths : ∀ j < last, (backoff j).value? = some (1 / 2 * 2 ^ j)
  /-- The last attempt decides. -/
  decided : answer = (verdict depth
    ((course.posted last).bind (Client.accept request.url))).result course.printed

section
variable {console : Console σ} {course : Console.Course} {position : σ → Nat} {settings : Settings}
variable {path : Json} {address : String}

theorem ask_eq (console : Console σ) (addressed : addressOf settings path = .ok address)
    (body : Json) (n : Nat) (world : σ) :
    ask console settings path body n world
      = persist console (.str address) body n 0 n world := by
  rw [ask, addressed, Int.toNat_natCast]

/-- The answer does not depend on whether a log is kept. -/
theorem ask_fst (console : Console σ) (addressed : addressOf settings path = .ok address)
    (body : Json) (n : Nat) (world : σ) :
    (ask console settings path body n world).1
      = (persist console.logged (.str address) body n 0 n (world, [])).1 :=
  congrArg Prod.fst ((ask_eq console addressed body n world).trans
    (persist_logged _ body n 0 n (world, [])))

/-- **Retries are bounded, and back off**: a message is posted until the service is reached, at most
as often as is allowed, with a pause between two posts that is half a second at first and doubles,
where the console can make the pauses. A document that cannot be sent at all is tried once, and
nothing is done where the address cannot be written. -/
theorem ask_retries (follows : console.Follows course position) (settings : Settings)
    (path body : Json) {n : Nat} (allowed : 1 ≤ n) (few : n ≤ 1024) {k : ℕ∞}
    (unreached : ∀ i : Nat, (i : ℕ∞) < k → Unreached (course.posted i))
    (reached : ∀ i : Nat, (i : ℕ∞) = k → ¬ Unreached (course.posted i))
    (pausing : ∀ j : Nat, j + 1 < n → (j : ℕ∞) < k → course.paused (backoff j) = .ok ()) {world : σ}
    (fresh : position world = 0) :
    let events := (ask console.logged settings path body n (world, [])).2.2
    let answer := (ask console settings path body n world).1
    let depth := console.client.depth
    (∀ address request, addressOf settings path = .ok address →
        PostRequest.prepare address body = .ok request →
        ∃ last, Retried course depth request n k last events answer) ∧
      (∀ address lapse, addressOf settings path = .ok address →
        PostRequest.prepare address body = .error lapse →
        events = .started patience :: (verdict depth (.error lapse)).shown ∧
          answer = (verdict depth (.error lapse)).result course.printed) ∧
      ∀ long, addressOf settings path = .error long →
        events = [] ∧ answer = .error (.ofLongNumber long) := by
  intro events answer depth
  obtain ⟨last, spare, rfl, within, ends⟩ := exists_last allowed k
  refine ⟨fun address request addressed ready => ?_, fun address lapse addressed unprepared => ?_,
    fun long unaddressed => ?_⟩
  · have asked := ask_eq console.logged addressed body (last + spare + 1) (world, [])
    have seen := ask_fst console addressed body (last + spare + 1) world
    have settled : spare = 0 ∨ ¬ Unreached (course.posted (0 + last)) := by
      rw [Nat.zero_add]
      exact ends.imp_right (reached last)
    have before (j : Nat) (early : j < last) : (j : ℕ∞) < k :=
      lt_of_lt_of_le (by exact_mod_cast early) within
    have pauses (j : Nat) (early : j < last) : pauseOf course j = .ok () :=
      pauseOf_eq_ok_iff.2 ⟨by omega, pausing j (by omega) (before j early)⟩
    obtain ⟨after, ran⟩ := persist_run follows ready (last + spare + 1 : Nat) [] fresh
      (fun i early _ => pauses i (by omega)) (fun i early _ => unreached i (before i (by omega)))
      settled
    rw [Nat.zero_add, ← List.range_eq_range', List.nil_append] at ran
    have order : events = sending request course.posted last ++
        (verdict depth ((course.posted last).bind (Client.accept request.url))).shown :=
      congrArg (fun result => result.2.2) (asked.trans ran)
    exact ⟨last,
      { count := last_count rfl within ends
        posts := by
          rw [order, List.countP_append, countP_posted_shown,
            countP_sending request course.posted last fun _ _ => rfl]
          rfl
        pauses := by
          rw [order, List.countP_append, countP_paused_shown,
            countP_sending request course.posted last fun _ _ => rfl]
          rfl
        order := order
        retried := fun j early => unreached j (before j early)
        lengths := fun j early => value?_backoff (by omega)
        decided := seen.trans (congrArg Prod.fst ran) }⟩
  · obtain ⟨after, ran⟩ := persist_unprepared follows unprepared (last + spare + 1 : Nat) 0
      (last + spare) world []
    have asked := ask_eq console.logged addressed body (last + spare + 1) (world, [])
    exact ⟨congrArg (fun result => result.2.2) (asked.trans ran),
      (ask_fst console addressed body (last + spare + 1) world).trans (congrArg Prod.fst ran)⟩
  · have asked {τ : Type} (console : Console τ) (world : τ) :
        ask console settings path body (last + spare + 1 : Nat) world
          = (.error (.ofLongNumber long), world) := by
      rw [ask, unaddressed]
    exact ⟨congrArg (fun result => result.2.2) (asked console.logged (world, [])),
      congrArg Prod.fst (asked console world)⟩

end

namespace Sample

/-- A service that starts up meanwhile, on a terminal that shows whatever it is given. -/
def starting : Console.Course where
  posted i :=
    if i < 2 then .error (.unreachable "Connection refused")
    else .ok ⟨200, [0x22, 0x6f, 0x6b, 0x22], []⟩
  paused _ := .ok ()
  printed _ := .ok ()

/-- A console in a world that counts the documents that are posted. -/
def console (course : Console.Course) : Console Nat where
  print text world := (course.printed text, world)
  client :=
    { depth := 900
      start := fun _ world => world
      post := fun _ world => (course.posted world, world + 1) }
  pause seconds world := (course.paused seconds, world)

theorem console_follows (course : Console.Course) : (console course).Follows course id where
  start _ _ := rfl
  post _ _ := ⟨rfl, rfl⟩
  pause _ _ := ⟨rfl, rfl⟩
  print _ _ := ⟨rfl, rfl⟩

def message : Json := .obj [("message", .str "hi")]

/-- The address of the service where nothing else is set. -/
def address : String := "http://localhost:8000/agent"

theorem addressOf_agent : addressOf {} (.str "/agent") = .ok address := by decide +kernel

theorem exists_prepared : ∃ request, PostRequest.prepare address message = .ok request := by
  have sendable : (PostRequest.prepare address message).isOk = true := by decide +kernel
  cases prepared : PostRequest.prepare address message with
  | ok request => exact ⟨request, rfl⟩
  | error lapse => rw [prepared] at sendable; cases sendable

theorem starting_unreached {i : Nat} (early : (i : ℕ∞) < 2) : Unreached (starting.posted i) :=
  ⟨"Connection refused", if_pos (by exact_mod_cast early)⟩

theorem starting_reached {i : Nat} (ready : (i : ℕ∞) = 2) : ¬ Unreached (starting.posted i) := by
  obtain rfl : i = 2 := by exact_mod_cast ready
  rintro ⟨message, ⟨⟩⟩

end Sample

theorem ask_retries_starting :
    1 ≤ 5 ∧ 5 ≤ 1024 ∧ (Sample.console Sample.starting).Follows Sample.starting id ∧
      ∃ request, PostRequest.prepare Sample.address Sample.message = .ok request ∧
        ∃ last, Retried Sample.starting 900 request 5 2 last
          (ask (Sample.console Sample.starting).logged {} (.str "/agent") Sample.message (5 : Nat)
            (0, [])).2.2
          (ask (Sample.console Sample.starting) {} (.str "/agent") Sample.message (5 : Nat)
            0).1 := by
  obtain ⟨request, prepared⟩ := Sample.exists_prepared
  have sent := ask_retries (Sample.console_follows Sample.starting) {} (.str "/agent")
    Sample.message (show 1 ≤ 5 by decide) (by decide) (fun _ => Sample.starting_unreached)
    (fun _ => Sample.starting_reached) (fun _ _ _ => rfl) (show id 0 = 0 from rfl)
  exact ⟨by decide, by decide, Sample.console_follows _, request, prepared,
    sent.1 Sample.address request Sample.addressOf_agent prepared⟩

end Shell
end CallPlan
