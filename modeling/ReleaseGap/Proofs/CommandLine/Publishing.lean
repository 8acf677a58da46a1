import Mathlib.Data.List.Nodup
import ReleaseGap.Proofs.CommandLine.Outcome
import ReleaseGap.Proofs.Text.Utf8
import ReleaseGap.Proofs.Wiki.Publication

/-!
# What comes of a publication

A publication logs in, fetches the page and stores it, in this order and nothing else.  Each step is
taken once, and only after the one before was answered with what it needs: a login with a token, a
fetch with a page.  It succeeds if the last step is answered with any value.
-/
namespace ReleaseGap

namespace Wiki

open XmlRpc (Value)

/-- Whether a reply answers a call with a value: its status is no error, and its text is a response
without a fault that holds the value. -/
def Answers (reply : Reply) (v : Value) : Prop :=
  ∃ status body root parameters parameter value,
    reply = .answered status body ∧ ¬(400 ≤ status ∧ status ≤ 599) ∧
    Xml.Element.read (Text.Utf8.decodeLossy body).toList = .ok root ∧
    root.name = "methodResponse" ∧ root.child? "fault" = none ∧
    root.child? "params" = some parameters ∧ parameters.child? "param" = some parameter ∧
    parameter.child? "value" = some value ∧ XmlRpc.decode value = .ok v

theorem result_eq_ok_iff {root : Xml.Element} {v : Value} :
    XmlRpc.Element.result root = .ok v ↔
      root.name = "methodResponse" ∧ root.child? "fault" = none ∧
      ∃ parameters parameter value, root.child? "params" = some parameters ∧
        parameters.child? "param" = some parameter ∧ parameter.child? "value" = some value ∧
        XmlRpc.decode value = .ok v := by
  by_cases hname : root.name = "methodResponse"
  · cases hfault : root.child? "fault" with
    | some fault => simp [XmlRpc.Element.result, hname, hfault]
    | none =>
      simp only [XmlRpc.Element.result, hname, hfault, ne_eq, not_true_eq_false, if_false,
        true_and, bind, Option.bind]
      cases hparameters : root.child? "params" with
      | none => simp
      | some parameters =>
        cases hparameter : parameters.child? "param" with
        | none => simp [hparameter]
        | some parameter =>
          cases hvalue : parameter.child? "value" with
          | none => simp [hparameter, hvalue]
          | some value =>
            cases hdecode : XmlRpc.decode value <;>
              simp [hparameter, hvalue, hdecode, XmlRpc.decodeResult, Except.mapError]
  · simp [XmlRpc.Element.result, hname]

/-- A call ends with a value where the reply answers with it. -/
theorem answerOf_eq_ok_iff {reply : Reply} {v : Value} :
    answerOf reply = .ok v ↔ Answers reply v := by
  constructor
  · intro h
    cases reply with
    | unreachable => cases h
    | answered status body =>
      by_cases hstatus : 400 ≤ status ∧ status ≤ 599
      · simp [answerOf, Reply.text?, hstatus] at h
      · simp only [answerOf, Reply.text?, if_neg hstatus] at h
        obtain ⟨root, hroot, hresult⟩ := exists_of_bind_eq_ok (eq_ok_of_mapError_eq_ok h)
        obtain ⟨hname, hfault, parameters, parameter, value, hparameters, hparameter, hvalue,
          hdecode⟩ := result_eq_ok_iff.1 hresult
        exact ⟨status, body, root, parameters, parameter, value, rfl, hstatus,
          eq_ok_of_mapError_eq_ok hroot, hname, hfault, hparameters, hparameter, hvalue, hdecode⟩
  · rintro ⟨status, body, root, parameters, parameter, value, rfl, hstatus, hroot, hname, hfault,
      hparameters, hparameter, hvalue, hdecode⟩
    have hresult := result_eq_ok_iff.2 ⟨hname, hfault, parameters, parameter, value, hparameters,
      hparameter, hvalue, hdecode⟩
    simp only [answerOf, Reply.text?, if_neg hstatus, XmlRpc.readResponse, hroot]
    change (XmlRpc.Element.result root).mapError _ = _
    rw [hresult]
    rfl

theorem Answers.unique {reply : Reply} {v w : Value} (hv : Answers reply v)
    (hw : Answers reply w) : v = w :=
  Except.ok.inj ((answerOf_eq_ok_iff.2 hv).symm.trans (answerOf_eq_ok_iff.2 hw))

def loginRequest (s : Settings.Wiki) (password : String) : Request :=
  .post s.rpcUrl (XmlRpc.methodCall "confluence1.login" [.string s.user, .string password])

def getPageRequest (s : Settings.Wiki) (token : String) : Request :=
  .post s.rpcUrl (XmlRpc.methodCall "confluence1.getPage"
    [.string token, .string s.space, .string s.page])

/-- The request that stores a page with other content. -/
def storePageRequest (s : Settings.Wiki) (content token : String) (page : List (String × Value)) :
    Request :=
  .post s.rpcUrl (XmlRpc.methodCall "confluence1.storePage"
    [.string token, .struct (withContent content page)])

/-- Calls of different methods are different. -/
theorem eq_of_methodCall_eq {method method' : String} {parameters parameters' : List Value}
    (h : XmlRpc.methodCall method parameters = XmlRpc.methodCall method' parameters') :
    method = method' := by
  have hread := XmlRpc.read_methodCall method parameters
  rw [h, XmlRpc.read_methodCall] at hread
  have hname := congrArg (fun root => root.children.head?.map Xml.Element.text)
    (Except.ok.inj hread)
  exact (Option.some.inj hname).symm

/-- The requests of a publication are three, whatever their parameters are. -/
theorem nodup_requests (s : Settings.Wiki) (password content token : String)
    (page : List (String × Value)) :
    [loginRequest s password, getPageRequest s token,
      storePageRequest s content token page].Nodup := by
  have hne : ∀ {method method' : String} {parameters parameters' : List Value},
      method ≠ method' → Request.post s.rpcUrl (XmlRpc.methodCall method parameters)
        ≠ Request.post s.rpcUrl (XmlRpc.methodCall method' parameters') := by
    intro method method' parameters parameters' hmethod heq
    exact hmethod (eq_of_methodCall_eq (Request.post.inj heq).2)
  simp only [List.nodup_cons, List.mem_cons, List.not_mem_nil, or_false, not_or]
  exact ⟨⟨hne (by decide), hne (by decide)⟩, hne (by decide), not_false, List.nodup_nil⟩

section Course

variable {world : World} {s : Settings.Wiki} {password content : String} {log : List Question}
  {succeeds : Bool}

/-- The ways in which a publication goes, each with all that was asked and whether it succeeds. -/
inductive Goes (world : World) (s : Settings.Wiki) (password content : String) :
    List Question → Bool → Prop
  | withoutToken
      (h : ∀ token, ¬ Answers (world.reply [] (loginRequest s password)) (.string token)) :
      Goes world s password content [.request (loginRequest s password)] false
  | withoutPage {token : String}
      (htoken : Answers (world.reply [] (loginRequest s password)) (.string token))
      (h : ∀ page, ¬ Answers
        (world.reply [.request (loginRequest s password)] (getPageRequest s token))
        (.struct page)) :
      Goes world s password content
        [.request (loginRequest s password), .request (getPageRequest s token)] false
  | complete {token : String} {page : List (String × Value)} {succeeds : Bool}
      (htoken : Answers (world.reply [] (loginRequest s password)) (.string token))
      (hpage : Answers
        (world.reply [.request (loginRequest s password)] (getPageRequest s token))
        (.struct page))
      (h : succeeds = true ↔ ∃ v, Answers
        (world.reply [.request (loginRequest s password), .request (getPageRequest s token)]
          (storePageRequest s content token page)) v) :
      Goes world s password content
        [.request (loginRequest s password), .request (getPageRequest s token),
          .request (storePageRequest s content token page)] succeeds

namespace Goes

/-- No step is left out, and none is taken twice. -/
theorem isPrefix (h : Goes world s password content log succeeds) :
    ∃ token page, log <+: [loginRequest s password, getPageRequest s token,
      storePageRequest s content token page].map .request := by
  cases h with
  | withoutToken h => exact ⟨"", [], _, rfl⟩
  | @withoutPage token htoken h => exact ⟨token, [], _, rfl⟩
  | @complete token page succeeds htoken hpage h => exact ⟨token, page, [], rfl⟩

theorem nodup (h : Goes world s password content log succeeds) : log.Nodup := by
  obtain ⟨token, page, hprefix⟩ := h.isPrefix
  refine hprefix.sublist.nodup ?_
  exact (nodup_requests s password content token page).map fun _ _ => Question.request.inj

theorem head (h : Goes world s password content log succeeds) :
    log[0]? = some (.request (loginRequest s password)) := by
  cases h <;> rfl

/-- The page is fetched with the token of the login. -/
theorem second_iff (h : Goes world s password content log succeeds) (question : Question) :
    log[1]? = some question ↔ ∃ token,
      Answers (world.reply [] (loginRequest s password)) (.string token) ∧
      question = .request (getPageRequest s token) := by
  have hsecond : ∀ {token}, Answers (world.reply [] (loginRequest s password)) (.string token) →
      (some (Question.request (getPageRequest s token)) = some question ↔ ∃ token,
        Answers (world.reply [] (loginRequest s password)) (.string token) ∧
        question = .request (getPageRequest s token)) := by
    intro token htoken
    constructor
    · intro heq
      exact ⟨token, htoken, (Option.some.inj heq).symm⟩
    · rintro ⟨token', htoken', rfl⟩
      obtain rfl := Value.string.inj (htoken.unique htoken')
      rfl
  cases h with
  | withoutToken h =>
    refine iff_of_false (by simp) ?_
    rintro ⟨token, htoken, -⟩
    exact h token htoken
  | withoutPage htoken h => exact hsecond htoken
  | complete htoken hpage h => exact hsecond htoken

/-- What is stored is the page that was fetched, and it is stored with the same token. -/
theorem third_iff (h : Goes world s password content log succeeds) (question : Question) :
    log[2]? = some question ↔ ∃ token page,
      Answers (world.reply [] (loginRequest s password)) (.string token) ∧
      Answers (world.reply [.request (loginRequest s password)] (getPageRequest s token))
        (.struct page) ∧
      question = .request (storePageRequest s content token page) := by
  cases h with
  | withoutToken h =>
    refine iff_of_false (by simp) ?_
    rintro ⟨token, page, htoken, -⟩
    exact h token htoken
  | withoutPage htoken h =>
    refine iff_of_false (by simp) ?_
    rintro ⟨token, page, htoken', hpage, -⟩
    obtain rfl := Value.string.inj (htoken.unique htoken')
    exact h page hpage
  | @complete token page succeeds htoken hpage h =>
    constructor
    · intro heq
      exact ⟨token, page, htoken, hpage, (Option.some.inj heq).symm⟩
    · rintro ⟨token', page', htoken', hpage', rfl⟩
      obtain rfl := Value.string.inj (htoken.unique htoken')
      obtain rfl := Value.struct.inj (hpage.unique hpage')
      rfl

theorem succeeds_iff (h : Goes world s password content log succeeds) :
    succeeds = true ↔ ∃ token page v,
      log = [.request (loginRequest s password), .request (getPageRequest s token),
        .request (storePageRequest s content token page)] ∧
      Answers (world.reply [.request (loginRequest s password), .request (getPageRequest s token)]
        (storePageRequest s content token page)) v := by
  cases h with
  | withoutToken h => simp
  | withoutPage htoken h => simp
  | @complete token page succeeds htoken hpage h =>
    rw [h]
    constructor
    · rintro ⟨v, hv⟩
      exact ⟨token, page, v, rfl, hv⟩
    · rintro ⟨token', page', v, hlog, hv⟩
      simp only [List.cons.injEq, Question.request.injEq, and_true, true_and] at hlog
      rw [← hlog.1, ← hlog.2] at hv
      exact ⟨v, hv⟩

end Goes

end Course

section Steps

variable (world : World) (past : List Question) (s : Settings.Wiki)

/-- A login sends its request and ends with the token of the answer. -/
theorem runFrom_login (password : String) :
    let reply := world.reply past (loginRequest s password)
    let log := past ++ [.request (loginRequest s password)]
    (∃ e, (∀ token, ¬ Answers reply (.string token)) ∧
      (login s.rpcUrl s.user password).runFrom world past = (.error e, log)) ∨
    ∃ token, Answers reply (.string token) ∧
      (login s.rpcUrl s.user password).runFrom world past = (.ok token, log) := by
  intro reply log
  have hcall : (call s.rpcUrl "confluence1.login" [.string s.user, .string password]).runFrom world
      past = (answerOf reply, log) := runFrom_call ..
  simp only [← answerOf_eq_ok_iff]
  rw [login, Session.runFrom_bind, hcall]
  cases answerOf reply with
  | error e => exact .inl ⟨e, by simp, rfl⟩
  | ok v =>
    cases v with
    | string token => exact .inr ⟨token, rfl, rfl⟩
    | _ => exact .inl ⟨.noToken, by simp, rfl⟩

/-- A fetch sends its request and ends with the page of the answer. -/
theorem runFrom_getPage (token : String) :
    let reply := world.reply past (getPageRequest s token)
    let log := past ++ [.request (getPageRequest s token)]
    (∃ e, (∀ page, ¬ Answers reply (.struct page)) ∧
      (getPage s.rpcUrl token s.space s.page).runFrom world past = (.error e, log)) ∨
    ∃ page, Answers reply (.struct page) ∧
      (getPage s.rpcUrl token s.space s.page).runFrom world past = (.ok page, log) := by
  intro reply log
  have hcall : (call s.rpcUrl "confluence1.getPage"
      [.string token, .string s.space, .string s.page]).runFrom world past
      = (answerOf reply, log) := runFrom_call ..
  simp only [← answerOf_eq_ok_iff]
  rw [getPage, Session.runFrom_bind, hcall]
  cases answerOf reply with
  | error e => exact .inl ⟨e, by simp, rfl⟩
  | ok v =>
    cases v with
    | struct page => exact .inr ⟨page, rfl, rfl⟩
    | _ => exact .inl ⟨.noPage, by simp, rfl⟩

end Steps

/-- A publication with a password goes in one of these ways. -/
theorem goes_publish (world : World) (s : Settings.Wiki) (password content : String) :
    let ended := (publish s (.ok password) content).runIn world
    Goes world s password content ended.2 ended.1.isOk := by
  simp only [Session.runIn, publish, Session.runFrom_bind]
  rcases runFrom_login world [] s password with ⟨e, hnone, hlogin⟩ | ⟨token, htoken, hlogin⟩
  · rw [hlogin]
    exact .withoutToken hnone
  · simp only [hlogin, Session.runFrom_bind]
    rcases runFrom_getPage world [.request (loginRequest s password)] s token with
      ⟨e, hnone, hgetPage⟩ | ⟨page, hpage, hgetPage⟩
    · simp only [List.nil_append, hgetPage]
      exact .withoutPage htoken hnone
    · let log : List Question :=
        [.request (loginRequest s password), .request (getPageRequest s token)]
      let store := storePageRequest s content token page
      have hstore : (storePage s.rpcUrl token (withContent content page)).runFrom world log
          = (answerOf (world.reply log store), log ++ [.request store]) := runFrom_call ..
      simp only [List.nil_append, List.cons_append, hgetPage, Session.runFrom_bind]
      rw [hstore]
      refine .complete htoken hpage ?_
      simp only [← answerOf_eq_ok_iff]
      change ((answerOf (world.reply log store)).map _).isOk = true
        ↔ ∃ v, answerOf (world.reply log store) = .ok v
      cases answerOf (world.reply log store) <;> simp [Except.map, Except.isOk, Except.toBool]

end Wiki

namespace CommandLine

namespace Surroundings

/-- Whether the password that the settings lead to cannot be read. -/
def LacksPassword (s : Surroundings) : Prop :=
  ∃ settings e, s.settings = .ok settings ∧
    settings.wiki.readPassword s.files s.secrets = .error e

/-- What a publication is given: the settings of the wiki, the password and the content. -/
def Gives (s : Surroundings) (wiki : Settings.Wiki) (password content : String) : Prop :=
  (∃ settings, s.settings = .ok settings ∧ settings.wiki = wiki) ∧
  wiki.readPassword s.files s.secrets = .ok password ∧ s.input = Text.Utf8.encode content

theorem exists_gives {s : Surroundings} (hsettings : ¬ s.HasFaultySettings)
    (hinput : Text.Utf8.IsText s.input) (hpassword : ¬ s.LacksPassword) :
    ∃ wiki password content, s.Gives wiki password content := by
  cases hlocate : s.settings with
  | error e => exact absurd (exists_error_settings_iff.1 ⟨e, hlocate⟩) hsettings
  | ok settings =>
    cases hread : settings.wiki.readPassword s.files s.secrets with
    | error e => exact absurd ⟨settings, e, hlocate, hread⟩ hpassword
    | ok password =>
      obtain ⟨content, hcontent⟩ := hinput
      exact ⟨settings.wiki, password, content, ⟨settings, hlocate, rfl⟩, hread, hcontent.symm⟩

end Surroundings

namespace Program

/-- What cannot be read or had ends a publication before it asks anything. -/
theorem storeContent_of_faulty {s : Surroundings} (world : World)
    (h : s.HasFaultySettings ∨ ¬ Text.Utf8.IsText s.input ∨ s.LacksMeans ∨ s.LacksPassword) :
    ∃ failure, (storeContent s).runIn world = (.failed failure, []) := by
  rw [storeContent]
  cases hlocate : s.settings with
  | error e => exact ⟨_, rfl⟩
  | ok settings =>
    cases hcontent : Text.Utf8.decode? s.input with
    | none => exact ⟨_, rfl⟩
    | some content =>
      cases hclient : s.refusals.client with
      | some why => exact ⟨_, rfl⟩
      | none =>
        cases hruntime : s.refusals.runtime with
        | some e => exact ⟨_, rfl⟩
        | none =>
          rcases h with hfaulty | htext | hmeans | ⟨settings', e, hlocate', hpassword⟩
          · exact absurd hfaulty (Surroundings.not_hasFaultySettings hlocate)
          · rw [← Text.Utf8.decode?_eq_none_iff, hcontent] at htext
            cases htext
          · simp [Surroundings.LacksMeans, hruntime, hclient] at hmeans
          · obtain rfl : settings = settings' := Except.ok.inj (hlocate.symm.trans hlocate')
            simp only [hpassword]
            exact ⟨_, rfl⟩

theorem goes_storeContent {s : Surroundings} {wiki : Settings.Wiki} {password content : String}
    (h : s.Gives wiki password content) (hmeans : ¬ s.LacksMeans) (world : World) :
    let ended := (storeContent s).runIn world
    ∃ succeeds, Wiki.Goes world wiki password content ended.2 succeeds ∧
      (ended.1.code = some 0 ↔ succeeds = true) := by
  obtain ⟨⟨settings, hlocate, rfl⟩, hpassword, hinput⟩ := h
  obtain ⟨hruntime, hclient⟩ : s.refusals.runtime = none ∧ s.refusals.client = none := by
    simpa [Surroundings.LacksMeans] using hmeans
  have hcontent := Text.Utf8.decode?_eq_some_iff.2 hinput
  have hgoes := Wiki.goes_publish world settings.wiki password content
  simp only [storeContent, hlocate, hcontent, hruntime, hclient, hpassword, Session.runIn,
    Session.runFrom_bind]
  rw [Session.runIn] at hgoes
  rcases hpublish : (Wiki.publish settings.wiki (.ok password) content).runFrom world []
    with ⟨e | _, log⟩
  · rw [hpublish] at hgoes
    exact ⟨false, hgoes, by simp [Ending.code]⟩
  · rw [hpublish] at hgoes
    exact ⟨true, hgoes, by simp [Ending.code]⟩

/-- A publication asks nothing, and fails, unless the settings, the input and the password can be
read and the system gives it something to ask with.  Then it logs in, fetches the page if the login
is answered with a token, and with that token, and stores the page if it is answered with one;
nothing else is asked and nothing twice.  It succeeds when it comes to the last request and that is
answered with a value. -/
theorem start_publish_in_order {arguments given : List String}
    (h : values Program.publish.room arguments = .ok given) (s : Surroundings)
    (today : Calendar.Date) (world : World) :
    let ended := (Program.publish.start arguments s today).runIn world
    let ending := ended.1
    let log := ended.2
    (s.HasFaultySettings ∨ ¬ Text.Utf8.IsText s.input ∨ s.LacksMeans ∨ s.LacksPassword →
      log = [] ∧ ending.code = some 1) ∧
    (¬ s.HasFaultySettings → Text.Utf8.IsText s.input → ¬ s.LacksMeans → ¬ s.LacksPassword →
      ∃ wiki password content, s.Gives wiki password content ∧
        let login := Wiki.loginRequest wiki password
        let getPage := Wiki.getPageRequest wiki
        let storePage := Wiki.storePageRequest wiki content
        (∃ token page, log <+: [login, getPage token, storePage token page].map .request) ∧
        log.Nodup ∧ log[0]? = some (.request login) ∧
        (∀ question, log[1]? = some question ↔ ∃ token,
          Wiki.Answers (world.reply [] login) (.string token) ∧
          question = .request (getPage token)) ∧
        (∀ question, log[2]? = some question ↔ ∃ token page,
          Wiki.Answers (world.reply [] login) (.string token) ∧
          Wiki.Answers (world.reply [.request login] (getPage token)) (.struct page) ∧
          question = .request (storePage token page)) ∧
        (ending.code = some 0 ↔ ∃ token page v,
          log = [.request login, .request (getPage token), .request (storePage token page)] ∧
          Wiki.Answers (world.reply [.request login, .request (getPage token)]
            (storePage token page)) v)) := by
  intro ended ending log
  have hstart : ended = (storeContent s).runIn world := by
    simp only [ended, start, h]
  constructor
  · intro hfaulty
    obtain ⟨failure, hfailed⟩ := storeContent_of_faulty world hfaulty
    rw [hfailed] at hstart
    exact ⟨congrArg Prod.snd hstart, by simp [ending, hstart, Ending.code]⟩
  · intro hsettings hinput hmeans hpassword
    obtain ⟨wiki, password, content, hgives⟩ := Surroundings.exists_gives hsettings hinput hpassword
    obtain ⟨succeeds, hgoes, hcode⟩ := goes_storeContent hgives hmeans world
    rw [← hstart] at hgoes hcode
    exact ⟨wiki, password, content, hgives, hgoes.isPrefix, hgoes.nodup, hgoes.head,
      hgoes.second_iff, hgoes.third_iff, hcode.trans hgoes.succeeds_iff⟩

/-- A directory of secrets with the password, and a text to store. -/
def equippedSurroundings : Surroundings where
  files := { nodes := [(["secrets", "pwfile"], .file (Text.Utf8.encode "secret\n"))] }
  secrets := some "/secrets"
  input := Text.Utf8.encode "new"

/-- A wiki that answers a token first, and a page that holds nothing from then on. -/
def emptyWiki : World where
  reply past _ := .answered 200 (Text.Utf8.encode ("<methodResponse><params><param><value>" ++
    (if past.isEmpty then "t" else "<struct/>") ++ "</value></param></params></methodResponse>"))
  outcome _ _ := .notFound

theorem answers_emptyWiki_token (r : Request) :
    Wiki.Answers (emptyWiki.reply [] r) (.string "t") := by
  have htoken : (Wiki.answerOf (emptyWiki.reply [] (.get ""))).toOption.bind XmlRpc.Value.text?
      = some "t" := by decide +kernel
  rw [← Wiki.answerOf_eq_ok_iff]
  change Wiki.answerOf (emptyWiki.reply [] (.get "")) = _
  cases hanswer : Wiki.answerOf (emptyWiki.reply [] (.get "")) with
  | error e => simp [hanswer, Except.toOption] at htoken
  | ok v =>
    rw [hanswer] at htoken
    cases v with
    | string token => exact congrArg (Except.ok ∘ XmlRpc.Value.string) (Option.some.inj htoken)
    | _ => cases htoken

theorem answers_emptyWiki_page (asked : Question) (past : List Question) (r : Request) :
    Wiki.Answers (emptyWiki.reply (asked :: past) r) (.struct []) := by
  have hempty : ((Wiki.getPage "" "t" "" "").runFrom emptyWiki
      [.request (.get "")]).1.toOption.map List.isEmpty = some true := by decide +kernel
  rcases Wiki.runFrom_getPage emptyWiki [.request (.get "")]
    { rpcUrl := "", space := "", page := "" } "t" with ⟨e, -, hfetched⟩ | ⟨page, hpage, hfetched⟩
  · rw [hfetched] at hempty
    cases hempty
  · rw [hfetched] at hempty
    obtain rfl : page = [] := List.isEmpty_iff.1 (Option.some.inj hempty)
    exact hpage

theorem start_publish_in_order_sample :
    let ended :=
      (Program.publish.start [] equippedSurroundings ⟨2011, 3, 3, by decide⟩).runIn emptyWiki
    values Program.publish.room [] = .ok [] ∧
    ((Program.publish.start [] { equippedSurroundings with input := [255] }
      ⟨2011, 3, 3, by decide⟩).runIn emptyWiki).2 = [] ∧
    ended.2[0]? = some (.request (Wiki.loginRequest {} "secret")) ∧
    ended.2[1]? = some (.request (Wiki.getPageRequest {} "t")) ∧
    ended.2[2]? = some (.request (Wiki.storePageRequest {} "new" "t" [])) ∧
    ended.1.code = some 0 := by
  intro ended
  have hvalues : values Program.publish.room [] = .ok [] := rfl
  have hlocate : equippedSurroundings.settings = .ok {} := by decide +kernel
  have hpassword : ({} : Settings.Wiki).readPassword equippedSurroundings.files
      equippedSurroundings.secrets = .ok "secret" := by decide +kernel
  have hmeans : ¬ equippedSurroundings.LacksMeans := by
    simp [Surroundings.LacksMeans, equippedSurroundings]
  have hreadable : ¬ equippedSurroundings.LacksPassword := by
    rintro ⟨settings, e, hsettings, hnone⟩
    obtain rfl : {} = settings := Except.ok.inj (hlocate.symm.trans hsettings)
    exact absurd (hpassword.symm.trans hnone) (by simp)
  have hfaulty : ¬ Text.Utf8.IsText [255] := by
    rw [← Text.Utf8.decode?_eq_none_iff]
    decide +kernel
  have hnothing := (start_publish_in_order hvalues { equippedSurroundings with input := [255] }
    ⟨2011, 3, 3, by decide⟩ emptyWiki).1 (.inr (.inl hfaulty))
  obtain ⟨wiki, password, content, ⟨⟨settings, hsettings, rfl⟩, hread, hinput⟩, hprefix, -, hfirst,
    hsecond, hthird, hsucceeds⟩ := (start_publish_in_order hvalues equippedSurroundings
      ⟨2011, 3, 3, by decide⟩ emptyWiki).2 (Surroundings.not_hasFaultySettings hlocate)
      ⟨"new", rfl⟩ hmeans hreadable
  obtain rfl : {} = settings := Except.ok.inj (hlocate.symm.trans hsettings)
  obtain rfl : "secret" = password := Except.ok.inj (hpassword.symm.trans hread)
  obtain rfl : "new" = content := Option.some.inj
    ((Text.Utf8.decode?_eq_some_iff.2 rfl).symm.trans (Text.Utf8.decode?_eq_some_iff.2 hinput))
  have hstored : ended.2[2]? = some (.request (Wiki.storePageRequest {} "new" "t" [])) :=
    (hthird _).2 ⟨"t", [], answers_emptyWiki_token _, answers_emptyWiki_page _ _ _, rfl⟩
  obtain ⟨token, page, hprefix⟩ := hprefix
  have hlog : ended.2.length = 3 := by
    have hmore := (List.getElem?_eq_some_iff.1 hstored).1
    have hmost : ended.2.length ≤ 3 := hprefix.length_le
    omega
  exact ⟨hvalues, hnothing.1, hfirst, (hsecond _).2 ⟨"t", answers_emptyWiki_token _, rfl⟩, hstored,
    hsucceeds.2 ⟨token, page, .struct [], hprefix.eq_of_length hlog, answers_emptyWiki_page _ _ _⟩⟩

end Program
end CommandLine
end ReleaseGap
