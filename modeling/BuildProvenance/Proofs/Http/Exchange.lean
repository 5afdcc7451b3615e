import BuildProvenance.Http.Registry
import BuildProvenance.Proofs.Action
import Mathlib.Tactic

/-!
# What is said to a registry

An exchange is a request with the answer to it.  The authorization of a request
is what the client itself puts there; what a transport makes of an address is
not part of it.  A transport can keep a log of its exchanges without anyone
noticing, so that what is sent in the course of an action is what it adds to
the log.

Fetching a manifest adds at most three exchanges.  The manifest is asked for
with the token at hand.  If that is answered by a challenge, a token is asked
for where the challenge says, and the manifest once more with the new token.
-/

namespace BuildProvenance

/-- What tokens are kept for. -/
def ManifestRequest.scope (request : ManifestRequest) : String × String :=
  (request.registry, request.repository)

namespace Http

structure Exchange where
  request : Request
  answer : Result Response

/-- The token in a response to a request for one. -/
def Response.token? (response : Response) : Option String :=
  if isSuccess response.status then
    (Json.decodeBytes? Json.Decoder.token response.body).join
  else none

namespace Exchange

/-- The manifest is asked for at its address, with this token. -/
def ForManifest (exchange : Exchange) (scheme : String) (request : ManifestRequest)
    (token : Option String) : Prop :=
  ∃ target, Url.parse (manifestUrl scheme request) = .ok target ∧
    exchange.request = ⟨target, token.map bearer, some manifestTypes⟩

/-- A token is asked for at the source, with none. -/
def ForToken (exchange : Exchange) (source : TokenSource) : Prop :=
  ∃ target, Url.parse source.realm = .ok target ∧
    exchange.request = ⟨target.addPairs source.pairs, none, none⟩

/-- The answer says where a token for the repository is found. -/
def Challenges (exchange : Exchange) (repository : String) (source : TokenSource) : Prop :=
  ∃ response challenge, exchange.answer = .ok response ∧ response.status = unauthorized ∧
    response.header? "WWW-Authenticate" = some challenge ∧
      TokenSource.ofChallenge challenge repository = .ok source

/-- The token that is given out in the answer. -/
def token? (exchange : Exchange) : Option String :=
  exchange.answer.toOption.bind Response.token?

end Exchange

variable {σ : Type}

/-- The transport together with a log of its exchanges, the first one first. -/
def Transport.logged (transport : Transport σ) : Transport (σ × List Exchange) where
  ask request := fun state =>
    ((transport.ask request state.1).1,
      ((transport.ask request state.1).2,
        state.2 ++ [⟨request, (transport.ask request state.1).1⟩]))
  patience state := transport.patience state.1
  patience_lt := by
    rintro request ⟨state, log⟩ answer ⟨after, longer⟩ hasked
    rw [Prod.mk.injEq, Prod.mk.injEq] at hasked
    exact transport.patience_lt request state answer after (Prod.ext hasked.1 hasked.2.1)

def Session.withLog (session : Session σ) (log : List Exchange) :
    Session (σ × List Exchange) :=
  ⟨(session.transport, log), session.tokens⟩

/-- With a log the action comes to the same outcome, and adds these exchanges to the log. -/
def Adds {α : Type} (logged : Action (Session (σ × List Exchange)) α) (session : Session σ)
    (sent : List Exchange) (result : Result α) (after : Session σ) : Prop :=
  ∀ log, logged (session.withLog log) = (result, after.withLog (log ++ sent))

variable {transport : Transport σ} {session after : Session σ} {scheme : String}
  {request : ManifestRequest} {token : Option String}

theorem Adds.within {α : Type} {logged : Action (Session (σ × List Exchange)) α}
    {sent : List Exchange} {result : Result α} (hadds : Adds logged session sent result after)
    (context : Context) :
    Adds (logged.within context) session sent (result.within context) after :=
  fun log => Action.within_eq_iff.mpr ⟨result, hadds log, rfl⟩

/-! ## Single requests -/

/-- A request that is not sent fails, and one that is sent is answered by the transport. -/
theorem send_adds {target : Except Url.ParseError Url} {authorization accept : Option String}
    {result : Result Response}
    (h : send transport target authorization accept session = (result, after)) :
    after.tokens = session.tokens ∧
      ((∃ error, result = .error error) ∧
          Adds (send transport.logged target authorization accept) session [] result after ∨
        ∃ url, target = .ok url ∧
          Adds (send transport.logged target authorization accept) session
            [⟨⟨url, authorization, accept⟩, result⟩] result after) := by
  unfold send at h
  cases target with
  | error failure =>
      cases h
      refine ⟨rfl, Or.inl ⟨⟨_, rfl⟩, fun log => ?_⟩⟩
      rw [List.append_nil]
      rfl
  | ok url =>
      by_cases hsent : (url.scheme = "http".toList ∨ url.scheme = "https".toList) ∧
          authorization.all isHeaderValue
      · simp only [if_pos hsent] at h
        cases h
        refine ⟨rfl, Or.inr ⟨url, rfl, fun log => ?_⟩⟩
        unfold send
        simp only [if_pos hsent]
        rfl
      · simp only [if_neg hsent] at h
        cases h
        refine ⟨rfl, Or.inl ⟨⟨_, rfl⟩, fun log => ?_⟩⟩
        unfold send
        simp only [if_neg hsent, List.append_nil]

theorem within_send_adds {target : Except Url.ParseError Url}
    {authorization accept : Option String} {context : Context} {result : Result Response}
    (h : (send transport target authorization accept).within context session = (result, after)) :
    after.tokens = session.tokens ∧
      ((∃ error, result = .error error) ∧
          Adds ((send transport.logged target authorization accept).within context) session []
            result after ∨
        ∃ url exchange, target = .ok url ∧ exchange.request = ⟨url, authorization, accept⟩ ∧
          (∀ response, result = .ok response ↔ exchange.answer = .ok response) ∧
          Adds ((send transport.logged target authorization accept).within context) session
            [exchange] result after) := by
  obtain ⟨found, hsend, rfl⟩ := Action.within_eq_iff.mp h
  obtain ⟨htokens, ⟨⟨error, rfl⟩, hadds⟩ | ⟨url, htarget, hadds⟩⟩ := send_adds hsend
  · exact ⟨htokens, Or.inl ⟨⟨_, rfl⟩, hadds.within context⟩⟩
  · exact ⟨htokens, Or.inr ⟨url, _, htarget, rfl, fun response => Result.within_eq_ok_iff,
      hadds.within context⟩⟩

/-! ## Conversations -/

/-- A manifest is asked for once at most, and has to be sent to be answered. -/
theorem requestManifest_adds {result : Result Response}
    (h : requestManifest transport (manifestUrl scheme request) token session = (result, after)) :
    after.tokens = session.tokens ∧ ∃ sent,
      Adds (requestManifest transport.logged (manifestUrl scheme request) token) session sent
        result after ∧
      ((∃ error, result = .error error) ∧ sent = [] ∨
        ∃ exchange, exchange.ForManifest scheme request token ∧ sent = [exchange] ∧
          ∀ response, result = .ok response ↔ exchange.answer = .ok response) := by
  obtain ⟨htokens, ⟨hfailed, hadds⟩ | ⟨target, exchange, hparse, hrequest, hanswer, hadds⟩⟩ :=
    within_send_adds h
  · exact ⟨htokens, [], hadds, Or.inl ⟨hfailed, rfl⟩⟩
  · exact ⟨htokens, [exchange], hadds,
      Or.inr ⟨exchange, ⟨target, hparse, hrequest⟩, rfl, hanswer⟩⟩

theorem askToken_adds {source : TokenSource} {result : Result Response}
    (h : askToken transport source session = (result, after)) :
    after.tokens = session.tokens ∧ ∃ sent,
      Adds (askToken transport.logged source) session sent result after ∧
      ((∃ error, result = .error error) ∧ sent = [] ∨
        ∃ exchange, exchange.ForToken source ∧ sent = [exchange] ∧
          ∀ response, result = .ok response ↔ exchange.answer = .ok response) := by
  obtain ⟨htokens, ⟨hfailed, hadds⟩ | ⟨target, exchange, hparse, hrequest, hanswer, hadds⟩⟩ :=
    within_send_adds h
  · exact ⟨htokens, [], hadds, Or.inl ⟨hfailed, rfl⟩⟩
  · refine ⟨htokens, [exchange], hadds, Or.inr ⟨exchange, ?_, rfl, hanswer⟩⟩
    cases hrealm : Url.parse source.realm with
    | error failure =>
        rw [hrealm] at hparse
        cases hparse
    | ok url =>
        rw [hrealm] at hparse
        cases hparse
        exact ⟨url, hrealm, hrequest⟩

theorem readToken_eq_ok_iff {realm token : String} {response : Response} :
    readToken realm response = .ok token ↔ response.token? = some token := by
  unfold readToken Response.token?
  cases isSuccess response.status with
  | false => simp [Result.fail]
  | true =>
      simp only [if_true, decodeBody]
      cases Json.decodeBytes? Json.Decoder.token response.body with
      | none =>
          constructor
          · intro hread
            cases hread
          · intro htoken
            cases htoken
      | some found =>
          cases found with
          | none =>
              constructor
              · intro hread
                cases hread
              · intro htoken
                cases htoken
          | some held =>
              show (.ok held : Result String) = .ok token ↔ some held = some token
              rw [Except.ok.injEq, Option.some.injEq]

/-- What a call adds to the tokens that are remembered. -/
def given (request : ManifestRequest) (granted : Option String) :
    List ((String × String) × String) :=
  (granted.map fun token => (request.scope, token)).toList

/-- A token is asked for once at most, and remembered when it is given out. -/
theorem requestToken_adds {challenge : String} {result : Result String}
    (h : requestToken transport request challenge session = (result, after)) :
    ∃ sent granted, Adds (requestToken transport.logged request challenge) session sent result
        after ∧
      after.tokens = given request granted ++ session.tokens ∧
      (∀ token, result = .ok token ↔ granted = some token) ∧
      (sent = [] ∧ granted = none ∨
        ∃ source exchange, TokenSource.ofChallenge challenge request.repository = .ok source ∧
          exchange.ForToken source ∧ sent = [exchange] ∧ granted = exchange.token?) := by
  unfold requestToken at h
  split at h
  next error hsource =>
    cases h
    refine ⟨[], none, fun log => ?_, rfl, by simp, Or.inl ⟨rfl, rfl⟩⟩
    unfold requestToken
    rw [hsource, List.append_nil]
  next source hsource =>
    split at h
    next error between hasked =>
      cases h
      obtain ⟨htokens, sent, hadds, hsent⟩ := askToken_adds hasked
      refine ⟨sent, none, fun log => ?_, by simpa [given] using htokens, by simp, ?_⟩
      · unfold requestToken
        simp only [hsource, hadds log]
      · rcases hsent with ⟨-, rfl⟩ | ⟨exchange, hfor, rfl, hanswer⟩
        · exact Or.inl ⟨rfl, rfl⟩
        · have hnone : exchange.token? = none := by
            cases hfound : exchange.answer with
            | error failure => simp [Exchange.token?, hfound, Except.toOption]
            | ok response => cases (hanswer response).mpr hfound
          exact Or.inr ⟨source, exchange, hsource, hfor, rfl, hnone.symm⟩
    next response between hasked =>
      obtain ⟨htokens, sent, hadds, ⟨⟨error, herror⟩, -⟩ | ⟨exchange, hfor, rfl, hanswer⟩⟩ :=
        askToken_adds hasked
      · cases herror
      have htoken : exchange.token? = response.token? := by
        simp [Exchange.token?, (hanswer response).mp rfl, Except.toOption]
      split at h
      next error hread =>
        cases h
        have hnone : exchange.token? = none := by
          rw [htoken]
          cases hfound : response.token? with
          | none => rfl
          | some token =>
              rw [readToken_eq_ok_iff.mpr hfound] at hread
              cases hread
        refine ⟨[exchange], none, fun log => ?_, by simpa [given] using htokens, by simp,
          Or.inr ⟨source, exchange, hsource, hfor, rfl, hnone.symm⟩⟩
        unfold requestToken
        simp only [hsource, hadds log, hread]
      next token hread =>
        cases h
        have hsome : exchange.token? = some token := by
          rw [htoken]
          exact readToken_eq_ok_iff.mp hread
        refine ⟨[exchange], some token, fun log => ?_, ?_, fun other => ?_,
          Or.inr ⟨source, exchange, hsource, hfor, rfl, hsome.symm⟩⟩
        · unfold requestToken
          simp only [hsource, hadds log, hread]
          rfl
        · rw [← htokens]
          rfl
        · rw [Except.ok.injEq, Option.some.injEq]

/-- What follows a request for a manifest that was answered. -/
inductive Continues (scheme : String) (request : ManifestRequest) (opening : Exchange) :
    List Exchange → Option String → Prop
  | settled : Continues scheme request opening [] none
  /-- The manifest is not asked for again, with or without a token. -/
  | stopped (source : TokenSource) (exchange : Exchange)
      (challenged : opening.Challenges request.repository source)
      (asked : exchange.ForToken source) :
      Continues scheme request opening [exchange] exchange.token?
  | repeated (source : TokenSource) (exchange closing : Exchange) (token : String)
      (challenged : opening.Challenges request.repository source)
      (asked : exchange.ForToken source) (granted : exchange.token? = some token)
      (again : closing.ForManifest scheme request (some token)) :
      Continues scheme request opening [exchange, closing] (some token)

/-- The last of the exchanges is a request for the manifest, answered with the response. -/
def EndsWith (exchanges : List Exchange) (scheme : String) (request : ManifestRequest)
    (response : Response) : Prop :=
  ∃ earlier exchange token, exchanges = earlier ++ [exchange] ∧
    exchange.ForManifest scheme request token ∧ exchange.answer = .ok response

theorem answerManifest_adds {opening : Exchange} {first : Response} {result : Result Response}
    (hopening : opening.ForManifest scheme request token) (hfirst : opening.answer = .ok first)
    (h : answerManifest transport (manifestUrl scheme request) request first session =
      (result, after)) :
    ∃ sent granted, Adds (answerManifest transport.logged (manifestUrl scheme request) request
        first) session sent result after ∧
      after.tokens = given request granted ++ session.tokens ∧
      Continues scheme request opening sent granted ∧
      ∀ response, result = .ok response → EndsWith (opening :: sent) scheme request response := by
  unfold answerManifest at h
  split at h
  next hstatus =>
    split at h
    next hnone =>
      cases h
      refine ⟨[], none, fun log => ?_, rfl, .settled, fun _ hok => by cases hok⟩
      unfold answerManifest
      simp only [if_pos hstatus, hnone, List.append_nil]
    next challenge hchallenge =>
      have hchallenges : ∀ {source : TokenSource},
          TokenSource.ofChallenge challenge request.repository = .ok source →
            opening.Challenges request.repository source :=
        fun hsource => ⟨first, challenge, hfirst, hstatus, hchallenge, hsource⟩
      split at h
      next error between hrequested =>
        cases h
        obtain ⟨sent, granted, hadds, htokens, -, hsent⟩ := requestToken_adds hrequested
        refine ⟨sent, granted, fun log => ?_, htokens, ?_, fun _ hok => by cases hok⟩
        · unfold answerManifest
          simp only [if_pos hstatus, hchallenge, hadds log]
        · rcases hsent with ⟨rfl, rfl⟩ | ⟨source, exchange, hsource, hfor, rfl, rfl⟩
          · exact .settled
          · exact .stopped source exchange (hchallenges hsource) hfor
      next fresh between hrequested =>
        obtain ⟨sent, granted, hadds, htokens, hresult, hsent⟩ := requestToken_adds hrequested
        obtain rfl : granted = some fresh := (hresult fresh).mp rfl
        obtain ⟨source, exchange, hsource, hfor, rfl, hgranted⟩ := hsent.resolve_left (by simp)
        obtain ⟨hsame, again, haddsAgain, hagain⟩ := requestManifest_adds h
        refine ⟨[exchange] ++ again, some fresh, fun log => ?_, hsame.trans htokens, ?_, ?_⟩
        · unfold answerManifest
          simp only [if_pos hstatus, hchallenge, hadds log, haddsAgain (log ++ [exchange])]
          rw [List.append_assoc]
        · rcases hagain with ⟨-, rfl⟩ | ⟨closing, hclosing, rfl, -⟩
          · rw [hgranted]
            exact .stopped source exchange (hchallenges hsource) hfor
          · exact .repeated source exchange closing fresh (hchallenges hsource) hfor
              hgranted.symm hclosing
        · rintro response rfl
          obtain ⟨⟨error, herror⟩, -⟩ | ⟨closing, hclosing, rfl, hanswer⟩ := hagain
          · cases herror
          · exact ⟨[opening, exchange], closing, some fresh, rfl, hclosing,
              (hanswer response).mp rfl⟩
  next hstatus =>
    cases h
    refine ⟨[], none, fun log => ?_, rfl, .settled, fun response hresponse => ?_⟩
    · unfold answerManifest
      simp only [if_neg hstatus, List.append_nil]
    · cases hresponse
      exact ⟨[], opening, token, rfl, hopening, hfirst⟩

theorem ask_registryClient (transport : Transport σ) (scheme : String)
    (request : ManifestRequest) :
    (registryClient transport scheme).ask request = fetchManifest transport scheme request := by
  simp only [registryClient]

/-- What is said in the course of one call, with the token that is given out. -/
inductive Conversation (scheme : String) (request : ManifestRequest) (token : Option String) :
    List Exchange → Option String → Prop
  | silent : Conversation scheme request token [] none
  | opened (opening : Exchange) (rest : List Exchange) (granted : Option String)
      (asked : opening.ForManifest scheme request token)
      (continues : Continues scheme request opening rest granted) :
      Conversation scheme request token (opening :: rest) granted

theorem fetchManifest_adds {result : Result Manifest}
    (h : fetchManifest transport scheme request session = (result, after)) :
    ∃ sent granted, Adds (fetchManifest transport.logged scheme request) session sent result
        after ∧
      after.tokens = given request granted ++ session.tokens ∧
      Conversation scheme request (session.token? request.registry request.repository) sent
        granted ∧
      ∀ manifest, result = .ok manifest → ∃ response, EndsWith sent scheme request response ∧
        readManifest (manifestUrl scheme request) request response = .ok manifest := by
  unfold fetchManifest at h
  dsimp only at h
  have htoken : ∀ log, (session.withLog log).token? request.registry request.repository =
      session.token? request.registry request.repository := fun _ => rfl
  split at h
  next error between hrequested =>
    cases h
    obtain ⟨hsame, sent, hadds, hsent⟩ := requestManifest_adds hrequested
    refine ⟨sent, none, fun log => ?_, hsame, ?_, fun _ hok => by cases hok⟩
    · unfold fetchManifest
      simp only [htoken, hadds log]
    · rcases hsent with ⟨-, rfl⟩ | ⟨opening, hopening, rfl, -⟩
      · exact .silent
      · exact .opened opening [] none hopening .settled
  next first between hrequested =>
    obtain ⟨hsame, sent, hadds, ⟨⟨error, herror⟩, -⟩ | ⟨opening, hopening, rfl, hfirst⟩⟩ :=
      requestManifest_adds hrequested
    · cases herror
    split at h
    next error last hanswered =>
      cases h
      obtain ⟨rest, granted, haddsRest, htokens, hcontinues, -⟩ :=
        answerManifest_adds hopening ((hfirst first).mp rfl) hanswered
      refine ⟨opening :: rest, granted, fun log => ?_, ?_,
        .opened opening rest granted hopening hcontinues, fun _ hok => by cases hok⟩
      · unfold fetchManifest
        simp only [htoken, hadds log, haddsRest (log ++ [opening])]
        rw [List.append_assoc]
        rfl
      · rw [htokens, hsame]
    next response last hanswered =>
      cases h
      obtain ⟨rest, granted, haddsRest, htokens, hcontinues, hends⟩ :=
        answerManifest_adds hopening ((hfirst first).mp rfl) hanswered
      refine ⟨opening :: rest, granted, fun log => ?_, ?_,
        .opened opening rest granted hopening hcontinues, fun manifest hread => ?_⟩
      · unfold fetchManifest
        simp only [htoken, hadds log, haddsRest (log ++ [opening])]
        rw [List.append_assoc]
        rfl
      · rw [htokens, hsame]
      · exact ⟨response, hends response rfl, hread⟩

/-- The answer that a manifest is read from is the last one in the log. -/
theorem exists_log_of_fetchManifest {begun later : Session (σ × List Exchange)}
    {manifest : Manifest}
    (h : fetchManifest transport.logged scheme request begun = (.ok manifest, later)) :
    ∃ sent response, later.transport.2 = begun.transport.2 ++ sent ∧
      EndsWith sent scheme request response ∧
      readManifest (manifestUrl scheme request) request response = .ok manifest := by
  rcases hplain : fetchManifest transport scheme request ⟨begun.transport.1, begun.tokens⟩ with
    ⟨result, after⟩
  obtain ⟨sent, granted, hadds, -, -, hends⟩ := fetchManifest_adds hplain
  have hlogged : fetchManifest transport.logged scheme request begun =
      (result, after.withLog (begun.transport.2 ++ sent)) := hadds begun.transport.2
  rw [hlogged] at h
  cases h
  obtain ⟨response, hend, hread⟩ := hends manifest rfl
  exact ⟨sent, response, rfl, hend, hread⟩

end Http

end BuildProvenance
