import ContextFree.Service.Session

/-!
# What the service remembers of the requests before

The answer to a request depends on what the service remembers, and that is little: the
grammar that was set last, with its normal form and its spelling, and how many choices were
made for samples. Of all the requests that came before, only one therefore matters, the
last that set a grammar. The others were refused, settled by the transport, or asked for
something without changing it.

Whether a request sets a grammar, and which one, does not depend on what is remembered, so
it can be said of the request alone; this is `grammarSet?`. One lemma says what a request
does to the grammar that is remembered, and the sequence follows by induction.
-/

namespace ContextFree.Service

/-- The endpoint that answers a request, if the transport lets it through. -/
def Request.endpoint? (r : Request) : Option Endpoint := do
  let target ← r.sent.toOption
  let route ← Route.ofPath? target.path
  if target.isNamed && route.endpoint.allows r.verb && !target.isSocket && !route.moved &&
      r.verb != "OPTIONS" then some route.endpoint else none

/-- The reply to a request, and what the service remembers afterwards. -/
def exchange (config : Config) (choices : Choices) (r : Request) (s : State) :
    Except RequestError Response × State :=
  (respond config choices r).run.run s

/-- The reply to a request of a service that remembers so much. -/
def reply (config : Config) (choices : Choices) (s : State) (r : Request) :
    Except RequestError Response :=
  (exchange config choices r s).1

/-- What the service remembers after a request. -/
def next (config : Config) (choices : Choices) (s : State) (r : Request) : State :=
  (exchange config choices r s).2

/-- What the service remembers after a sequence of requests. -/
def after (config : Config) (choices : Choices) (s : State) (rs : List Request) : State :=
  rs.foldl (next config choices) s

/-- What an answer says in a field that is true or false. -/
def Response.flag? (response : Response) (key : String) : Option Bool :=
  match response.body.bind (·.field? key) with
  | some (.bool b) => some b
  | _ => none

/-- Whether a request is one to set a grammar and is answered with success. -/
def isAccepted (config : Config) (choices : Choices) (s : State) (r : Request) : Bool :=
  match r.endpoint?, reply config choices s r with
  | some .setGrammar, .ok response => response.flag? "success" == some true
  | _, _ => false

/-- The last request of a sequence that sets a grammar and is answered with success. -/
def lastAccepted (config : Config) (choices : Choices) : State → List Request → Option Request
  | _, [] => none
  | s, r :: rs =>
    (lastAccepted config choices (next config choices s r) rs).or
      (if isAccepted config choices s r then some r else none)

/-- The grammar that a request sets. -/
def grammarSet? (config : Config) (r : Request) : Option Loaded :=
  match r.endpoint? with
  | some .setGrammar => (load config r.fields?).toOption
  | _ => none

variable {config : Config} {choices : Choices} {s t : State} {r : Request} {e : Endpoint}
  {fields? : Option Json}

/-! ## One request -/

theorem endpoint?_eq_some_iff :
    r.endpoint? = some e ↔ ∃ target, r.sent = .ok target ∧ target.isNamed = true ∧
      Route.ofPath? target.path = some ⟨e, false⟩ ∧ e.allows r.verb = true ∧
      target.isSocket = false ∧ r.verb ≠ "OPTIONS" := by
  constructor
  · intro h
    obtain ⟨target, hsent, h⟩ := Option.bind_eq_some_iff.1 h
    obtain ⟨⟨e', moved⟩, hroute, h⟩ := Option.bind_eq_some_iff.1 h
    have hsent : r.sent = .ok target := by
      cases hs : r.sent with
      | error x => rw [hs] at hsent; cases hsent
      | ok target' => rw [hs] at hsent; cases hsent; rfl
    split at h
    · next hpass =>
        cases h
        simp only [Bool.and_eq_true, Bool.not_eq_true', bne_iff_ne, ne_eq] at hpass
        obtain ⟨⟨⟨⟨hnamed, hallows⟩, hsocket⟩, rfl⟩, hoptions⟩ := hpass
        exact ⟨target, hsent, hnamed, hroute, hallows, hsocket, hoptions⟩
    · cases h
  · intro h
    obtain ⟨target, hsent, hnamed, hroute, hallows, hsocket, hoptions⟩ := h
    simp [Request.endpoint?, Except.toOption, hsent, hroute, hnamed, hallows, hsocket, hoptions]

theorem exchange_of_sent {target : Target} (h : r.sent = .ok target) :
    exchange config choices r s =
      ((respondAt config choices r target).run s).map Except.ok id := by
  unfold exchange respond
  rw [h]
  rfl

/-- What the transport settles, it settles whatever is remembered. -/
theorem exchange_of_endpoint?_eq_none (h : r.endpoint? = none) :
    ∃ settled, ∀ config choices s, exchange config choices r s = (settled, s) := by
  cases hsent : r.sent with
  | error x =>
      refine ⟨.error x, fun config choices s => ?_⟩
      unfold exchange respond
      rw [hsent]
      rfl
  | ok target =>
      suffices hsettled : ∃ response, ∀ config choices s,
          (respondAt config choices r target).run s = (response, s) by
        obtain ⟨response, hsettled⟩ := hsettled
        refine ⟨.ok response, fun config choices s => ?_⟩
        rw [exchange_of_sent hsent, hsettled]
        rfl
      have hnone : ∀ e, ¬ (target.isNamed = true ∧ Route.ofPath? target.path = some ⟨e, false⟩ ∧
          e.allows r.verb = true ∧ target.isSocket = false ∧ r.verb ≠ "OPTIONS") := by
        intro e hall
        rw [endpoint?_eq_some_iff.2 ⟨target, hsent, hall⟩] at h
        cases h
      unfold respondAt
      split
      · exact ⟨_, fun _ _ _ => rfl⟩
      split
      · exact ⟨_, fun _ _ _ => rfl⟩
      next hnamed e moved hroute =>
      split
      · exact ⟨_, fun _ _ _ => rfl⟩
      split
      · exact ⟨_, fun _ _ _ => rfl⟩
      split
      · exact ⟨_, fun _ _ _ => rfl⟩
      split
      · exact ⟨_, fun _ _ _ => rfl⟩
      exact absurd (by simp_all) (hnone e)

/-- All else is the answer of an endpoint, without its body perhaps. -/
theorem exchange_of_endpoint? (h : r.endpoint? = some e) :
    exchange config choices r s = ((answer config choices e r.fields?).run s).map
      (fun response => .ok (if r.headersOnly then { response with body := none } else response))
      id := by
  obtain ⟨target, hsent, hnamed, hroute, hallows, hsocket, hoptions⟩ := endpoint?_eq_some_iff.1 h
  rw [exchange_of_sent hsent]
  unfold respondAt
  simp only [hnamed, hroute, hallows, hsocket, hoptions]
  rfl

theorem answer_setGrammar_of_ok {l : Loaded} (h : load config fields? = .ok l) :
    (answer config choices .setGrammar fields?).run s =
      (l.response, { s with loaded := some l }) := by
  unfold answer
  simp only [StateT.run_bind, h]
  rfl

theorem answer_setGrammar_of_error {x : Refusal} (h : load config fields? = .error x) :
    (answer config choices .setGrammar fields?).run s = (x.response, s) := by
  unfold answer
  simp only [StateT.run_bind, h]
  rfl

theorem answer_loaded (he : e ≠ .setGrammar) :
    ((answer config choices e fields?).run s).2.loaded = s.loaded := by
  cases e with
  | setGrammar => exact absurd rfl he
  | showGrammar => rfl
  | generate => rfl
  | validate => rfl
  | ping => rfl
  | file => rfl

theorem answer_congr (he : e ≠ .generate) (h : s.loaded = t.loaded) :
    ((answer config choices e fields?).run s).1 = ((answer config choices e fields?).run t).1 := by
  cases e with
  | setGrammar =>
      cases hl : load config fields? with
      | ok l => rw [answer_setGrammar_of_ok hl, answer_setGrammar_of_ok hl]
      | error x => rw [answer_setGrammar_of_error hl, answer_setGrammar_of_error hl]
  | showGrammar => exact congrArg showGrammar h
  | generate => exact absurd rfl he
  | validate => exact congrArg (validate config · fields?) h
  | ping => rfl
  | file => rfl

/-- Only an action has a body in its request, and an action is not asked for headers. -/
theorem headersOnly_of_endpoint? (h : r.endpoint? = some e) (he : e.isAction = true) :
    r.headersOnly = false := by
  obtain ⟨-, -, -, -, hallows, -, hoptions⟩ := endpoint?_eq_some_iff.1 h
  refine Bool.eq_false_iff.2 fun hhead => ?_
  have hverb : r.verb = "HEAD" := by
    unfold Request.verb
    rw [beq_iff_eq.1 hhead]
    rfl
  rw [Endpoint.allows, if_pos he, hverb] at hallows
  revert hallows
  decide

theorem flag?_refusal (x : Refusal) : x.response.flag? "success" ≠ some true := by
  intro h
  cases x <;> cases h

theorem exchange_setGrammar (h : r.endpoint? = some .setGrammar) :
    exchange config choices r s =
      match load config r.fields? with
      | .ok l => (.ok l.response, { s with loaded := some l })
      | .error x => (.ok x.response, s) := by
  rw [exchange_of_endpoint? h, headersOnly_of_endpoint? h rfl]
  cases hl : load config r.fields? with
  | ok l =>
      rw [answer_setGrammar_of_ok hl]
      rfl
  | error x =>
      rw [answer_setGrammar_of_error hl]
      rfl

theorem exchange_loaded (h : r.endpoint? ≠ some .setGrammar) :
    (exchange config choices r s).2.loaded = s.loaded := by
  cases hend : r.endpoint? with
  | none =>
      obtain ⟨settled, hsettled⟩ := exchange_of_endpoint?_eq_none hend
      rw [hsettled]
  | some e =>
      have he : e ≠ .setGrammar := fun he => h (he ▸ hend)
      rw [exchange_of_endpoint? hend]
      exact answer_loaded he

theorem grammarSet?_eq_none (h : r.endpoint? ≠ some .setGrammar) :
    grammarSet? config r = none := by
  unfold grammarSet?
  split
  · next hset => exact absurd hset h
  · rfl

/-- Success tells of every request whether it sets a grammar. -/
theorem isAccepted_eq : isAccepted config choices s r = (grammarSet? config r).isSome := by
  by_cases h : r.endpoint? = some .setGrammar
  · unfold isAccepted grammarSet? reply
    rw [exchange_setGrammar h, h]
    cases load config r.fields? with
    | ok l => rfl
    | error x => exact beq_eq_false_iff_ne.2 (flag?_refusal x)
  · rw [grammarSet?_eq_none h]
    unfold isAccepted
    split
    · next hset _ => exact absurd hset h
    · rfl

/-- A request changes the grammar that is remembered if it sets one, and not otherwise. -/
theorem next_loaded : (next config choices s r).loaded = (grammarSet? config r).or s.loaded := by
  by_cases h : r.endpoint? = some .setGrammar
  · unfold next grammarSet?
    rw [exchange_setGrammar h, h]
    cases load config r.fields? with
    | ok l => rfl
    | error x => rfl
  · rw [grammarSet?_eq_none h, Option.none_or]
    exact exchange_loaded h

theorem reply_congr (hr : r.endpoint? ≠ some .generate) (h : s.loaded = t.loaded) :
    reply config choices s r = reply config choices t r := by
  unfold reply
  cases hend : r.endpoint? with
  | none =>
      obtain ⟨settled, hsettled⟩ := exchange_of_endpoint?_eq_none hend
      rw [hsettled, hsettled]
  | some e =>
      have he : e ≠ .generate := fun he => hr (he ▸ hend)
      rw [exchange_of_endpoint? hend, exchange_of_endpoint? hend, Prod.map_fst, Prod.map_fst,
        answer_congr he h]

/-! ## Sequences of requests -/

theorem isSome_grammarSet?_of_lastAccepted {rs : List Request}
    (h : lastAccepted config choices s rs = some r) : (grammarSet? config r).isSome = true := by
  induction rs generalizing s with
  | nil => cases h
  | cons q rs ih =>
      rw [lastAccepted, Option.or_eq_some_iff] at h
      rcases h with h | ⟨-, h⟩
      · exact ih h
      · split at h
        · next hq =>
            cases h
            rw [← hq, isAccepted_eq]
        · cases h

/-- The grammar that is remembered in the end is the one that was set last. -/
theorem after_loaded (rs : List Request) (s : State) :
    (after config choices s rs).loaded =
      ((lastAccepted config choices s rs).bind (grammarSet? config)).or s.loaded := by
  induction rs generalizing s with
  | nil => rfl
  | cons r rs ih =>
      show (after config choices (next config choices s r) rs).loaded = _
      rw [ih, next_loaded, lastAccepted, isAccepted_eq]
      cases hlast : lastAccepted config choices (next config choices s r) rs with
      | some q =>
          obtain ⟨l, hl⟩ := Option.isSome_iff_exists.1 (isSome_grammarSet?_of_lastAccepted hlast)
          simp [hl]
      | none => cases hset : grammarSet? config r <;> simp [hset]

/-- The replies are those of a service that was only sent the last request that set a
grammar. Samples also depend on the choices made before, and a request that is not accepted
leaves the grammar, its normal form and its spelling as they were. -/
theorem reply_after_requests (config : Config) (choices : Choices) (rs : List Request)
    (r : Request) :
    let s := after config choices {} rs
    let fresh := after config choices {} (lastAccepted config choices {} rs).toList
    (r.endpoint? ≠ some .generate → reply config choices s r = reply config choices fresh r) ∧
      reply config choices s r =
        reply config choices { fresh with choicesMade := s.choicesMade } r ∧
      (isAccepted config choices s r = false → (next config choices s r).loaded = s.loaded) := by
  intro s fresh
  have hloaded : s.loaded = fresh.loaded := by
    rw [after_loaded, after_loaded]
    cases hlast : lastAccepted config choices {} rs with
    | none => rfl
    | some q =>
        have hq := isSome_grammarSet?_of_lastAccepted hlast
        simp [lastAccepted, isAccepted_eq, hq]
  refine ⟨fun hr => reply_congr hr hloaded, ?_, fun hrefused => ?_⟩
  · rw [← hloaded]
  · rw [isAccepted_eq, Option.isSome_eq_false_iff, Option.isNone_iff_eq_none] at hrefused
    rw [next_loaded, hrefused, Option.none_or]

/-- A request that carries JSON. -/
def Request.post (target body : String) : Request :=
  ⟨"POST", target, some "application/json", some body⟩

/-- A second grammar is set, a third is refused with a fault and a fourth with a message. -/
theorem reply_to_refused_grammar :
    let choices := Choices.cycle #[]
    let kept := Request.post "/set_grammar" "\x7b\"grammar\": \"S -> ab\"\x7d"
    let rs := [.post "/set_grammar" "\x7b\"grammar\": \"S -> a\"\x7d", kept,
      .post "/set_grammar" "\x7b\"grammar\": 5\x7d", .post "/generate" "\x7b\x7d"]
    let r := Request.post "/set_grammar" "\x7b\"grammar\": \"s -> a\"\x7d"
    let s := after {} choices {} rs
    lastAccepted {} choices {} rs = some kept ∧
      reply {} choices s r = reply {} choices (after {} choices {} [kept]) r ∧
      (next {} choices s r).loaded = s.loaded := by
  intro choices kept rs r s
  have hlast : lastAccepted {} choices {} rs = some kept := by
    have hset : rs.map (fun r => (grammarSet? {} r).isSome) = [true, true, false, false] := by
      decide +kernel
    simp only [rs, List.map_cons, List.map_nil, List.cons.injEq] at hset
    simp [rs, lastAccepted, isAccepted_eq, hset]
  have hgenerate : r.endpoint? ≠ some .generate := by decide +kernel
  have hrefused : isAccepted {} choices s r = false := by
    rw [isAccepted_eq]
    decide +kernel
  obtain ⟨hreply, -, hloaded⟩ := reply_after_requests {} choices rs r
  rw [hlast] at hreply
  exact ⟨hlast, hreply hgenerate, hloaded hrefused⟩

end ContextFree.Service
