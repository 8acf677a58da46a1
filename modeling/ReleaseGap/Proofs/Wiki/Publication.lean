import ReleaseGap.Proofs.XmlRpc.Decoded
import ReleaseGap.Wiki.Client

/-!
# Publications

A publication stores the page that was fetched.  Only the content is replaced; all other members go
back as the server sent them, whatever they hold.
-/
namespace ReleaseGap.Wiki

open XmlRpc (Value ReadsAs)

/-- What a call makes of a reply. -/
def answerOf (reply : Reply) : Except WikiError Value :=
  match reply.text? with
  | none => .error .unavailable
  | some body => (XmlRpc.readResponse body).mapError .response

/-- A call sends one request. -/
theorem runFrom_call (world : World) (past : List Question) (rpcUrl method : String)
    (parameters : List Value) :
    let request := Request.post rpcUrl (XmlRpc.methodCall method parameters)
    (call rpcUrl method parameters).runFrom world past
      = (answerOf (world.reply past request), past ++ [.request request]) := by
  intro request
  have hask : (Session.ask request).runFrom world past
      = (world.reply past request, past ++ [.request request]) := rfl
  rw [call, Session.runFrom_bind, hask, answerOf]
  cases (world.reply past request).text? with
  | none => rfl
  | some body => rfl

theorem answerOf_canonical {reply : Reply} {v : Value} (h : answerOf reply = .ok v) :
    v.All Value.IsCanonical := by
  simp only [answerOf] at h
  split at h
  · cases h
  · exact XmlRpc.readResponse_canonical (eq_ok_of_mapError_eq_ok h)

/-- A page that was fetched is canonical. -/
theorem getPage_canonical {world : World} {past past' : List Question}
    {rpcUrl token space title : String} {page : List (String × Value)}
    (h : (getPage rpcUrl token space title).runFrom world past = (.ok page, past')) :
    (Value.struct page).All Value.IsCanonical := by
  rw [getPage, Session.runFrom_bind, runFrom_call] at h
  split at h
  · cases h
  · rename_i v hanswer
    split at h
    · rename_i members hmembers
      obtain rfl : members = page := Except.ok.inj (Prod.mk.inj h).1
      have hv := answerOf_canonical hanswer
      cases v with
      | struct members' =>
        obtain rfl : members' = members := Option.some.inj hmembers
        exact hv
      | _ => cases hmembers
    · cases h

/-- A page keeps what holds of all of its values when its content is replaced. -/
theorem all_withContent {p : Value → Prop} {page : List (String × Value)} {content : String}
    (hstruct : p (.struct (withContent content page))) (hcontent : p (.string content))
    (h : (Value.struct page).All p) : (Value.struct (withContent content page)).All p :=
  ⟨hstruct, Value.allMembers_insert hcontent h.2⟩

theorem withContent_canonical {page : List (String × Value)}
    (h : (Value.struct page).All Value.IsCanonical) (content : String) :
    (Value.struct (withContent content page)).All Value.IsCanonical :=
  all_withContent ⟨Keyed.isOrdered_insert h.1.1, trivial⟩ ⟨trivial, trivial⟩ h

/-- The last request of a publication stores the page, when the calls before it succeed. -/
theorem questions_publish {world : World} {past past₁ past₂ : List Question}
    {s : Settings.Wiki} {password token : String} {page : List (String × Value)}
    (hlogin : (login s.rpcUrl s.user password).runFrom world past = (.ok token, past₁))
    (hpage : (getPage s.rpcUrl token s.space s.page).runFrom world past₁ = (.ok page, past₂))
    (content : String) :
    ((publish s (.ok password) content).runFrom world past).2
      = past₂ ++ [.request (.post s.rpcUrl (XmlRpc.methodCall "confluence1.storePage"
          [.string token, .struct (withContent content page)]))] := by
  simp only [publish, Session.runFrom_bind, hlogin, hpage, storePage, runFrom_call,
    Session.runFrom_pure]

/-- The page that is stored is read as the page that was fetched, with the new content and nothing
else changed. -/
theorem publish_keeps_page {world : World} {past past₁ past₂ : List Question}
    (s : Settings.Wiki) {password token : String} (content : String)
    {page : List (String × Value)}
    (hlogin : (login s.rpcUrl s.user password).runFrom world past = (.ok token, past₁))
    (hpage : (getPage s.rpcUrl token s.space s.page).runFrom world past₁ = (.ok page, past₂))
    (hreads : (Value.struct page).All Value.ReadsBack) :
    ∃ body stored,
      ((publish s (.ok password) content).runFrom world past).2
        = past₂ ++ [.request (.post s.rpcUrl body)] ∧
      ReadsAs body "confluence1.storePage" [.string token, .struct stored] ∧
      Keyed.IsOrdered page ∧ Keyed.IsOrdered stored ∧
      ∀ key, Keyed.find? key stored
        = if "content" = key then some (.string content) else Keyed.find? key page := by
  -- What is stored was fetched, so it is canonical but for the new content, which is a text.
  have hcanonical := getPage_canonical hpage
  have hstored := withContent_canonical hcanonical content
  have hstoredReads : (Value.struct (withContent content page)).All Value.ReadsBack :=
    all_withContent trivial trivial hreads
  refine ⟨_, withContent content page, questions_publish hlogin hpage content, ?_,
    hcanonical.1.1, hstored.1.1, fun key => Keyed.find?_insert "content" key _ page⟩
  apply XmlRpc.readsAs_of_canonical
  · intro v hv
    rcases List.mem_pair.1 hv with rfl | rfl
    · exact ⟨trivial, trivial⟩
    · exact hstored
  · intro v hv
    rcases List.mem_pair.1 hv with rfl | rfl
    · exact trivial
    · exact hstoredReads

/-- The page of a wiki, with a number of the short kind and blanks around it. -/
def samplePage : String :=
  "<methodResponse><params><param><value><struct>" ++
  "<member><name>id</name><value><i4> +7 </i4></value></member>" ++
  "</struct></value></param></params></methodResponse>"

/-- The answer to a login, a text without a type. -/
def sampleToken : String :=
  "<methodResponse><params><param><value>t</value></param></params></methodResponse>"

/-- A wiki that answers the token first, and the page from then on. -/
def sampleWiki : World where
  reply past _ := .answered 200
    (Text.Utf8.encode (if past.isEmpty then sampleToken else samplePage))
  outcome _ _ := .notFound

def sampleSettings : Settings.Wiki := { rpcUrl := "rpc", user := "u", space := "s", page := "p" }

theorem publish_keeps_page_sample :
    ∃ page past₁ past₂ body stored,
      (login "rpc" "u" "secret").runFrom sampleWiki [] = (.ok "t", past₁) ∧
      (getPage "rpc" "t" "s" "p").runFrom sampleWiki past₁ = (.ok page, past₂) ∧
      page.map Prod.fst = ["id"] ∧
      ((publish sampleSettings (.ok "secret") "new").runFrom sampleWiki []).2
        = past₂ ++ [.request (.post "rpc" body)] ∧
      ReadsAs body "confluence1.storePage" [.string "t", .struct stored] ∧
      Keyed.IsOrdered page ∧ Keyed.IsOrdered stored ∧
      ∀ key, Keyed.find? key stored
        = if "content" = key then some (.string "new") else Keyed.find? key page := by
  -- Pages have no decidable equality, so the runs are evaluated to what can be compared of them.
  have htoken : ((login "rpc" "u" "secret").runFrom sampleWiki []).1.toOption = some "t" := by
    decide +kernel
  rcases hlogin : (login "rpc" "u" "secret").runFrom sampleWiki [] with ⟨token | token, past₁⟩
  · rw [hlogin] at htoken
    cases htoken
  · have hpast : ((login "rpc" "u" "secret").runFrom sampleWiki []).2 = past₁ := by rw [hlogin]
    obtain rfl : token = "t" := by
      rw [hlogin] at htoken
      exact Option.some.inj htoken
    have hfetched : (((getPage "rpc" "t" "s" "p").runFrom sampleWiki
        ((login "rpc" "u" "secret").runFrom sampleWiki []).2).1.toOption.map fun page =>
          (page.map Prod.fst, decide ((Value.struct page).All Value.ReadsBack)))
        = some (["id"], true) := by decide +kernel
    rw [hpast] at hfetched
    rcases hpage : (getPage "rpc" "t" "s" "p").runFrom sampleWiki past₁ with ⟨e | page, past₂⟩
    · rw [hpage] at hfetched
      cases hfetched
    · rw [hpage] at hfetched
      obtain ⟨hnames, hreads⟩ := Prod.mk.inj (Option.some.inj hfetched)
      obtain ⟨body, stored, hkept⟩ :=
        publish_keeps_page sampleSettings "new" hlogin hpage (of_decide_eq_true hreads)
      exact ⟨page, past₁, past₂, body, stored, rfl, hpage, hnames, hkept⟩

end ReleaseGap.Wiki
