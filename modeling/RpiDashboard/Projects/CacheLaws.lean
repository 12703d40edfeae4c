import RpiDashboard.Projects.RequestLaws

/-! Laws of the conditional requests: tags are kept with the bodies they came with. -/

namespace RpiDashboard.Projects

open Qt

section Entries

variable {key key' : QString} {value : QByteArray} {entries : List (QString × QByteArray)}

theorem cached_store_self : cached key (store key value entries) = some value := by
  simp [cached, store, Keyed.find_cons]

theorem cached_store_of_ne (h : key' ≠ key) :
    cached key' (store key value entries) = cached key' entries := by
  rw [cached, store, Keyed.find_cons, if_neg (Ne.symm h), Keyed.find_erase_of_ne h, cached]

end Entries

/-- The reply brings a new body. -/
def Reply.IsNew (reply : Reply) : Prop :=
  reply.exceededLimit = false ∧ reply.error = false ∧ 200 ≤ reply.status ∧ reply.status < 300

namespace ProjectsService

variable {qt : QtText} {service : ProjectsService}

/-- The server has sent this tag and this body together, in one successful response for the URL. -/
def Sent (qt : QtText) (service : ProjectsService) (key : QString) (tag body : QByteArray) : Prop :=
  ∃ finished ∈ service.replies, qt.urlText finished.started.request.url = key ∧
    finished.reply.IsNew ∧ finished.reply.etag = tag ∧ finished.reply.body = body

structure Coherent (qt : QtText) (service : ProjectsService) : Prop where
  /-- A tag and a body are kept for the same URLs, and come from one response. -/
  pairs : ∀ key,
    (cached key service.etags = none ∧ cached key service.cachedBodies = none) ∨
    ∃ tag body, cached key service.etags = some tag ∧ cached key service.cachedBodies = some body ∧
      Sent qt service key tag body
  /-- A reply that is not modified gives its callback the body of the tag it was asked with. -/
  delivered : ∀ finished ∈ service.replies, finished.reply.status = 304 →
    ∀ tag, finished.started.ifNoneMatch = some tag → ∃ body document,
      finished.outcome = .success body document ∧ qt.fromJson body = some document ∧
        Sent qt service (qt.urlText finished.started.request.url) tag body

/-- The server answers that something is not modified only to a request with a tag, and
repeats this tag. -/
def Honest (service : ProjectsService) : Event → Prop
  | .finished index reply _ => ∀ started ∈ service.inFlight[index]?, reply.status = 304 →
      reply.exceededLimit = false ∧ reply.error = false ∧ started.ifNoneMatch = some reply.etag
  | _ => True

/-- When such an answer arrives, the tag is still the one that is kept for the URL. -/
def Current (qt : QtText) (service : ProjectsService) : Event → Prop
  | .finished index reply _ => ∀ started ∈ service.inFlight[index]?, reply.status = 304 →
      cached (qt.urlText started.request.url) service.etags = started.ifNoneMatch
  | _ => True

instance Honest.decidable (service : ProjectsService) : (e : Event) → Decidable (service.Honest e)
  | .refresh => .isTrue trivial
  | .selectProject _ => .isTrue trivial
  | .finished index reply _ =>
    inferInstanceAs (Decidable (∀ started ∈ service.inFlight[index]?, reply.status = 304 →
      reply.exceededLimit = false ∧ reply.error = false ∧ started.ifNoneMatch = some reply.etag))

instance Current.decidable (qt : QtText) (service : ProjectsService) :
    (e : Event) → Decidable (service.Current qt e)
  | .refresh => .isTrue trivial
  | .selectProject _ => .isTrue trivial
  | .finished index reply _ =>
    inferInstanceAs (Decidable (∀ started ∈ service.inFlight[index]?, reply.status = 304 →
      cached (qt.urlText started.request.url) service.etags = started.ifNoneMatch))

theorem Sent.mono {other : ProjectsService} {key : QString} {tag body : QByteArray}
    (h : Sent qt service key tag body)
    (hr : ∀ finished, finished ∈ service.replies → finished ∈ other.replies) :
    Sent qt other key tag body := by
  obtain ⟨finished, hmem, h⟩ := h
  exact ⟨finished, hr finished hmem, h⟩

/-- Besides, what is kept can be read. -/
structure Kept (qt : QtText) (service : ProjectsService) : Prop extends Coherent qt service where
  readable : ∀ key body, cached key service.cachedBodies = some body → (qt.fromJson body).isSome

theorem Kept.of_same {other : ProjectsService} (h : service.Kept qt)
    (he : other.etags = service.etags) (hb : other.cachedBodies = service.cachedBodies)
    (hr : other.replies = service.replies) : other.Kept qt := by
  have hmono : ∀ finished, finished ∈ service.replies → finished ∈ other.replies :=
    fun _ => hr ▸ id
  refine ⟨⟨fun key => ?_, ?_⟩, by rw [hb]; exact h.readable⟩
  · rw [he, hb]
    refine (h.pairs key).imp_right ?_
    rintro ⟨tag, body, ht, hbody, hsent⟩
    exact ⟨tag, body, ht, hbody, hsent.mono hmono⟩
  · rw [hr]
    intro finished hf hs tag ht
    obtain ⟨body, document, ho, hj, hsent⟩ := h.delivered finished hf hs tag ht
    exact ⟨body, document, ho, hj, hsent.mono hmono⟩

theorem Kept.startRequests (h : service.Kept qt) : (service.startRequests qt).Kept qt :=
  have ho : (service.startRequests qt).others = service.others := startRequests_others
  h.of_same (congrArg etags ho :) (congrArg cachedBodies ho :) (congrArg replies ho :)

theorem stable_kept : Stable qt (Kept qt) where
  frame h ht := by
    simp only [transport, Transport.mk.injEq] at ht
    exact h.of_same ht.2.2.2.1 ht.2.2.2.2.1 ht.2.2.2.2.2
  request {service} pending h :=
    have hq : Kept qt { service with requests := service.requests ++ [pending] } :=
      h.of_same rfl rfl rfl
    hq.startRequests

section Settle

variable {index : Nat} {started : StartedRequest} {reply : Reply} {now : QDateTime}

theorem settle_replies : (service.settle qt index started reply now).replies = service.replies ++
    [⟨started, reply, service.outcomeOf qt (qt.urlText started.request.url) reply⟩] := by
  obtain ⟨interval, etags, bodies, heq⟩ := settle_eq qt service index started reply now
  rw [heq]
  simp [replies, Call.reply?]

/-- Without a new tag everything stays. -/
theorem settle_same (h : reply.etag = [] ∨
      ∃ error, service.outcomeOf qt (qt.urlText started.request.url) reply = .failure error) :
    (service.settle qt index started reply now).etags = service.etags ∧
      (service.settle qt index started reply now).cachedBodies = service.cachedBodies := by
  unfold settle
  dsimp only
  generalize service.outcomeOf qt (qt.urlText started.request.url) reply = outcome at h
  obtain ⟨interval, heq⟩ := backOff_eq qt _ reply now
  rw [heq]
  cases outcome with
  | success body document =>
    have he : reply.etag = [] := by simpa using h
    simp [remember, he]
  | failure error => exact ⟨rfl, rfl⟩

theorem settle_store {body : QByteArray} {document : QJsonValue} (he : reply.etag ≠ [])
    (h : service.outcomeOf qt (qt.urlText started.request.url) reply = .success body document) :
    (service.settle qt index started reply now).etags =
        store (qt.urlText started.request.url) reply.etag service.etags ∧
      (service.settle qt index started reply now).cachedBodies =
        store (qt.urlText started.request.url) body service.cachedBodies := by
  unfold settle
  dsimp only
  rw [h]
  obtain ⟨interval, heq⟩ := backOff_eq qt _ reply now
  rw [heq]
  simp [remember, he]

theorem outcomeOf_of_not_answer (qt : QtText) (service : ProjectsService) (key : QString)
    (h : reply.isAnswer = false) :
    ∃ error, service.outcomeOf qt key reply = .failure error := by
  unfold outcomeOf
  rw [h]
  simp only [Bool.false_eq_true, if_false]
  split <;> exact ⟨_, rfl⟩

theorem isNew_of_answer (h : reply.isAnswer) (hs : reply.status ≠ 304) :
    reply.IsNew := by
  simp only [Reply.isAnswer, Bool.and_eq_true, Bool.or_eq_true, Bool.not_eq_true',
    decide_eq_true_eq] at h
  obtain ⟨⟨hx, he⟩, hstatus⟩ := h
  rcases hstatus with ⟨hl, hu⟩ | hstatus
  · exact ⟨hx, he, hl, hu⟩
  · exact absurd hstatus hs

theorem bodyOf_of_isNew {key : QString} (h : reply.IsNew) :
    service.bodyOf key reply = reply.body := by
  obtain ⟨-, he, hl, hu⟩ := h
  have hs : reply.status ≠ 304 := by omega
  unfold bodyOf shouldReadReplyBody
  split <;> simp [he, hl, hu, hs]

theorem bodyOf_of_cached {key : QString} {body : QByteArray}
    (h : cached key service.cachedBodies = some body) (hs : reply.status = 304) :
    service.bodyOf key reply = body := by
  simp [bodyOf, h, hs]

theorem outcomeOf_of_answer (qt : QtText) (service : ProjectsService) (key : QString)
    (h : reply.isAnswer) :
    (∃ error, service.outcomeOf qt key reply = .failure error ∧
        qt.fromJson (service.bodyOf key reply) = none) ∨
      ∃ document, service.outcomeOf qt key reply = .success (service.bodyOf key reply) document ∧
        qt.fromJson (service.bodyOf key reply) = some document := by
  unfold outcomeOf
  rw [if_pos h]
  dsimp only
  cases qt.fromJson (service.bodyOf key reply) with
  | none => exact Or.inl ⟨_, rfl, rfl⟩
  | some document => exact Or.inr ⟨document, rfl, rfl⟩

/-- What an honest server's answer that something is not modified gives, while its tag is kept. -/
theorem Kept.notModified (h : service.Kept qt) (hs : reply.status = 304)
    (hh : service.Honest (.finished index reply now))
    (hc : service.Current qt (.finished index reply now))
    (hi : service.inFlight[index]? = some started) :
    ∃ body document, started.ifNoneMatch = some reply.etag ∧
      service.outcomeOf qt (qt.urlText started.request.url) reply = .success body document ∧
      qt.fromJson body = some document ∧
      Sent qt service (qt.urlText started.request.url) reply.etag body := by
  obtain ⟨hx, he, htag⟩ := hh started hi hs
  have hcurrent := hc started hi hs
  have hanswer : reply.isAnswer := by simp [Reply.isAnswer, hx, he, hs]
  rcases h.pairs (qt.urlText started.request.url) with ⟨hnone, -⟩ | ⟨tag, body, ht, hb, hsent⟩
  · simp [hcurrent, htag] at hnone
  · obtain rfl : reply.etag = tag := by simpa [hcurrent, htag] using ht
    have hbody := bodyOf_of_cached hb hs
    rcases outcomeOf_of_answer qt service (qt.urlText started.request.url) hanswer with ⟨error, -, hj⟩ | ⟨document, ho, hj⟩
    · rw [hbody] at hj
      exact absurd (h.readable _ _ hb) (by simp [hj])
    · rw [hbody] at ho hj
      exact ⟨body, document, htag, ho, hj, hsent⟩

theorem Sent.settle {key : QString} {tag body : QByteArray} (h : Sent qt service key tag body) :
    Sent qt (service.settle qt index started reply now) key tag body :=
  h.mono fun finished hf => by simp [settle_replies, hf]

/-- What a successful callback is given comes from one response, with the tag of the reply. -/
theorem Kept.sent (h : service.Kept qt) (hh : service.Honest (.finished index reply now))
    (hc : service.Current qt (.finished index reply now))
    (hi : service.inFlight[index]? = some started) {body : QByteArray} {document : QJsonValue}
    (ho : service.outcomeOf qt (qt.urlText started.request.url) reply = .success body document) :
    qt.fromJson body = some document ∧ Sent qt (service.settle qt index started reply now)
      (qt.urlText started.request.url) reply.etag body := by
  by_cases hs : reply.status = 304
  case pos =>
    obtain ⟨body', document', -, ho', hj, hsent⟩ := h.notModified hs hh hc hi
    obtain ⟨rfl, rfl⟩ : body' = body ∧ document' = document := by simpa [ho'] using ho
    exact ⟨hj, hsent.settle⟩
  case neg =>
    have hanswer : reply.isAnswer := by
      by_contra hn
      obtain ⟨error, hfail⟩ :=
        outcomeOf_of_not_answer qt service _ (Bool.eq_false_iff.mpr hn)
      cases ho.symm.trans hfail
    have hnew := isNew_of_answer hanswer hs
    rcases outcomeOf_of_answer qt service (qt.urlText started.request.url) hanswer with ⟨error, hfail, -⟩ | ⟨document', ho', hj⟩
    · cases ho.symm.trans hfail
    · rw [bodyOf_of_isNew hnew] at ho' hj
      obtain ⟨rfl, rfl⟩ : reply.body = body ∧ document' = document := by simpa [ho'] using ho
      refine ⟨hj, ⟨started, reply, .success reply.body document'⟩, ?_, rfl, hnew, rfl, rfl⟩
      rw [settle_replies, ho']
      exact List.mem_append_right _ (List.mem_singleton.mpr rfl)

theorem Kept.settle (h : service.Kept qt) (hh : service.Honest (.finished index reply now))
    (hc : service.Current qt (.finished index reply now))
    (hi : service.inFlight[index]? = some started) :
    (service.settle qt index started reply now).Kept qt := by
  have hdelivered : ∀ finished ∈ (service.settle qt index started reply now).replies,
      finished.reply.status = 304 → ∀ tag, finished.started.ifNoneMatch = some tag →
        ∃ body document, finished.outcome = .success body document ∧
          qt.fromJson body = some document ∧ Sent qt (service.settle qt index started reply now)
            (qt.urlText finished.started.request.url) tag body := by
    rw [settle_replies]
    refine List.forall_mem_append.mpr ⟨fun finished hf hs tag ht => ?_, ?_⟩
    · obtain ⟨body, document, ho, hj, hsent⟩ := h.delivered finished hf hs tag ht
      exact ⟨body, document, ho, hj, hsent.settle⟩
    · rw [List.forall_mem_singleton]
      intro hs tag ht
      obtain ⟨body, document, htag, ho, hj, hsent⟩ := h.notModified hs hh hc hi
      obtain rfl : reply.etag = tag := by simpa [htag] using ht
      exact ⟨body, document, ho, hj, hsent.settle⟩
  by_cases hsame : reply.etag = [] ∨
      ∃ error, service.outcomeOf qt (qt.urlText started.request.url) reply = .failure error
  case pos =>
    obtain ⟨he, hb⟩ : (service.settle qt index started reply now).etags = _ ∧ _ := settle_same hsame
    refine ⟨⟨fun key => ?_, hdelivered⟩, by rw [hb]; exact h.readable⟩
    rw [he, hb]
    refine (h.pairs key).imp_right ?_
    rintro ⟨tag, body, ht, hbody, hsent⟩
    exact ⟨tag, body, ht, hbody, hsent.settle⟩
  case neg =>
    obtain ⟨hne, hsuccess⟩ := not_or.mp hsame
    cases ho : service.outcomeOf qt (qt.urlText started.request.url) reply with
    | failure error => exact absurd ⟨error, ho⟩ hsuccess
    | success body document =>
      obtain ⟨hj, hsent⟩ := h.sent hh hc hi ho
      obtain ⟨he, hb⟩ : (service.settle qt index started reply now).etags = _ ∧ _ :=
        settle_store hne ho
      refine ⟨⟨fun key => ?_, hdelivered⟩, fun key other => ?_⟩
      · rw [he, hb]
        by_cases hkey : key = qt.urlText started.request.url
        · rw [hkey]
          exact Or.inr ⟨reply.etag, body, cached_store_self, cached_store_self, hsent⟩
        · rw [cached_store_of_ne hkey, cached_store_of_ne hkey]
          refine (h.pairs key).imp_right ?_
          rintro ⟨tag, body, ht, hbody, hsent⟩
          exact ⟨tag, body, ht, hbody, hsent.settle⟩
      · rw [hb]
        by_cases hkey : key = qt.urlText started.request.url
        · rw [hkey, cached_store_self]
          rintro ⟨⟩
          simp [hj]
        · rw [cached_store_of_ne hkey]
          exact h.readable key other

end Settle

theorem Kept.step (h : service.Kept qt) {e : Event} (hh : service.Honest e)
    (hc : service.Current qt e) : (service.step qt e).Kept qt := by
  cases e with
  | refresh => exact stable_kept.refresh h
  | selectProject index => exact stable_kept.selectProject index h
  | finished index reply now =>
    cases hi : service.inFlight[index]? with
    | none => simpa [ProjectsService.step, finished_of_none hi] using h
    | some started =>
      simp only [ProjectsService.step, finished_of_some hi]
      exact (stable_kept.deliver started.request.continuation now _ (h.settle hh hc hi)).startRequests

theorem initial_kept (owner : QString) (token : QByteArray) : (initial owner token).Kept qt where
  pairs _ := Or.inl ⟨rfl, rfl⟩
  delivered _ h := absurd h List.not_mem_nil
  readable _ _ h := by cases h

/-- The cache is coherent along every run in which no answer that something is not modified
finds another tag kept for its URL than the one that was sent. -/
theorem coherent_of_current (owner : QString) (token : QByteArray) {es : List Event}
    (hh : Throughout (step qt) Honest (initial owner token) es)
    (hc : Throughout (step qt) (Current qt) (initial owner token) es) :
    Coherent qt (run (step qt) (initial owner token) es) :=
  ((hh.and hc).invariant (initial_kept owner token) fun _ _ hq h => h.step hq.1 hq.2).toCoherent

section Sample

def sampleTime : QDateTime := { msecs := some 1749988800000 }

def repositoryBody : QByteArray := toUtf8
  "[\x7b\"full_name\":\"o/a\",\"name\":\"a\",\"default_branch\":\"main\",\"archived\":false\x7d]"

def runsBody : QByteArray := toUtf8
  "\x7b\"workflow_runs\":[\x7b\"id\":7,\"run_number\":1,\"updated_at\":\"2025-06-15T12:00:00Z\"\x7d]\x7d"

def noJobsBody : QByteArray := toUtf8 "\x7b\"jobs\":[]\x7d"

def jobsBody : QByteArray := toUtf8
  "\x7b\"jobs\":[\x7b\"name\":\"build\",\"status\":\"queued\"\x7d]\x7d"

def firstTag : QByteArray := toUtf8 "\"1\""
def secondTag : QByteArray := toUtf8 "\"2\""

/-- The documents that the bodies hold. -/
def sampleDocuments : List (QByteArray × QJsonValue) :=
  [(repositoryBody, .array [.object [("full_name", .string "o/a"), ("name", .string "a"),
      ("default_branch", .string "main"), ("archived", .bool false)]]),
    (runsBody, .object [("workflow_runs", .array [.object [("id", .integer 7),
      ("run_number", .integer 1), ("updated_at", .string "2025-06-15T12:00:00Z")]])]),
    (noJobsBody, .object [("jobs", .array [])]),
    (jobsBody, .object [("jobs", .array [.object [("name", .string "build"),
      ("status", .string "queued")]])])]

def sampleText : QtText where
  fromJson body := (sampleDocuments.find? fun entry => entry.1 = body).map Prod.snd
  fromIsoDate text := if text = "2025-06-15T12:00:00Z" then sampleTime else {}
  fixed := fixedText
  urlText url := url.text
  toLower text := text
  sameLetters a b := a = b
  toLongLong _ := none
  withoutQueries text := text

def answer (index : Nat) (body : QByteArray) (etag : QByteArray) : Event :=
  .finished index { body, etag } sampleTime

def notModified (index : Nat) (etag : QByteArray) : Event :=
  .finished index { status := 304, etag } sampleTime

/-- A refresh whose requests are answered at once, behind so many others. -/
def sampleRefresh (others : Nat) : List Event :=
  [.refresh, answer others repositoryBody [], answer others runsBody []]

/-- The jobs of the only project are loaded, and asked for again after another refresh. -/
def sampleLoaded : List Event :=
  sampleRefresh 0 ++ [answer 0 noJobsBody firstTag] ++ sampleRefresh 1

theorem coherent_sample : Coherent sampleText
    (run (step sampleText) (initial "o" []) (sampleLoaded ++ [notModified 1 firstTag])) :=
  coherent_of_current "o" [] (by decide +kernel) (by decide +kernel)

/-- Two requests for the jobs are in flight, both with the first tag.  The answer to one
brings a new body, the other is not modified: the first tag is kept with the new body. -/
def overtaken : List Event :=
  sampleLoaded ++ sampleRefresh 3 ++ [answer 1 jobsBody secondTag, notModified 2 firstTag]

def jobsKey : QString := "https://api.github.com/repos/o/a/actions/runs/7/jobs?per_page=100"

theorem overtaken_incoherent :
    Throughout (step sampleText) Honest (initial "o" []) overtaken ∧
      ¬ Coherent sampleText (run (step sampleText) (initial "o" []) overtaken) := by
  refine ⟨by decide +kernel, fun h => ?_⟩
  have htag : cached jobsKey (run (step sampleText) (initial "o" []) overtaken).etags =
      some firstTag := by decide +kernel
  have hbody : cached jobsKey (run (step sampleText) (initial "o" []) overtaken).cachedBodies =
      some jobsBody := by decide +kernel
  have hapart : ∀ finished ∈ (run (step sampleText) (initial "o" []) overtaken).replies,
      ¬ (finished.reply.etag = firstTag ∧ finished.reply.body = jobsBody) := by decide +kernel
  rcases h.pairs jobsKey with ⟨hnone, -⟩ | ⟨tag, body, ht, hb, finished, hf, -, -, he, hbody'⟩
  · cases htag.symm.trans hnone
  · obtain rfl : firstTag = tag := Option.some.inj (htag.symm.trans ht)
    obtain rfl : jobsBody = body := Option.some.inj (hbody.symm.trans hb)
    exact hapart finished hf ⟨he, hbody'⟩

end Sample

end ProjectsService

end RpiDashboard.Projects
