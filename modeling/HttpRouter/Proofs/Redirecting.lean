import HttpRouter.Proofs.Delivery
import HttpRouter.Proofs.Dispatch.Following
import HttpRouter.Proofs.Dispatch.Reporting
import HttpRouter.Proofs.Dispatch.Settling
import Mathlib.Data.List.DropRight

/-!
# Redirects of trailing slashes

A path that ends in a slash is redirected to the path without it, before there is a route. What is sent as the location
is that path and the query, and the gateway makes it absolute if it is a path of the application. It takes a path that
begins with two slashes for the name of another host, though, and so does the client: such a path is sent as it is. In
any case the path comes back as it was sent, and is not redirected again.

* `Initializer.exists_encode_of_encode`: what is left of an encoded path is an encoded path.
* `Environ.path_of_encoded`: a client that follows the redirect asks for that path.
* `Dispatcher.serve_trailing`: the reply to a path that ends in a slash.
-/

namespace HttpRouter

open Text (Percent.encode Percent.encodeChar Percent.escape Percent.octets)

variable {κ : Type}

/-! ## Slashes at the end of encoded paths -/

namespace Text

theorem dropEndWhile_eq {α : Type} (p : α → Bool) (s : List α) : dropEndWhile p s = s.rdropWhile p := rfl

/-- Only a slash is written with one. -/
theorem slash_notMem_encodeChar {safe : List Char} {c : Char} (h : c ≠ '/') : '/' ∉ Percent.encodeChar safe c := by
  rw [Percent.encodeChar]
  split
  · simpa using h.symm
  · intro hmem
    obtain ⟨b, -, hb⟩ := List.mem_flatMap.mp hmem
    exact absurd (Template.isSegmentChar_of_mem_escape hb) (by decide)

theorem encodeChar_slash {safe : List Char} (h : '/' ∈ safe) : Percent.encodeChar safe '/' = ['/'] := by
  rw [Percent.encodeChar, List.contains_iff_mem.mpr h, Bool.or_true, if_pos rfl]

/-- A slash at the beginning is kept. -/
theorem head?_encode {safe : List Char} (hsafe : '/' ∈ safe) {s : List Char} (h : s.head? = some '/') :
    (Percent.encode safe s).head? = some '/' := by
  obtain ⟨rest, rfl⟩ := List.head?_eq_some_iff.mp h
  rw [Percent.encode_cons, encodeChar_slash hsafe]
  rfl

theorem percentEncodeChar_ne_nil (safe : List Char) (c : Char) : Percent.encodeChar safe c ≠ [] := by
  rw [Percent.encodeChar]
  split
  · exact List.cons_ne_nil _ _
  · intro h
    rw [List.flatMap_eq_nil_iff] at h
    obtain ⟨b, hb⟩ := List.exists_mem_of_ne_nil _ (Template.encodeChar_ne_nil c)
    exact List.cons_ne_nil _ _ (h b hb)

/-- Behind a text without slashes there are none to drop. -/
theorem rdropWhile_append_of_notMem {s t : List Char} (ht : t ≠ []) (hslash : '/' ∉ t) :
    (s ++ t).rdropWhile (· == '/') = s ++ t := by
  rw [List.rdropWhile_eq_self_iff]
  intro hne hlast
  rw [List.getLast_append_of_ne_nil hne ht, beq_iff_eq] at hlast
  exact hslash (hlast ▸ List.getLast_mem ht)

/-- **The slashes at the end of an encoded text** are those at the end of the text. -/
theorem dropEndWhile_encode {safe : List Char} (hsafe : '/' ∈ safe) (s : List Char) :
    dropEndWhile (· == '/') (Percent.encode safe s) = Percent.encode safe (dropEndWhile (· == '/') s) := by
  rw [dropEndWhile_eq, dropEndWhile_eq]
  induction s using List.reverseRecOn with
  | nil => rfl
  | append_singleton s c ih =>
    rw [Percent.encode_append, Percent.encode_cons, Percent.encode_nil, List.append_nil]
    by_cases hc : c = '/'
    · rw [hc, encodeChar_slash hsafe, List.rdropWhile_concat_pos _ _ _ rfl, List.rdropWhile_concat_pos _ _ _ rfl, ih]
    · have hnot : ¬ (c == '/') = true := fun h => hc (beq_iff_eq.mp h)
      rw [rdropWhile_append_of_notMem (percentEncodeChar_ne_nil safe c) (slash_notMem_encodeChar hc),
        List.rdropWhile_concat_neg (· == '/') s c hnot, Percent.encode_append, Percent.encode_cons, Percent.encode_nil,
        List.append_nil]

/-- What is left does not end in what was dropped. -/
theorem getLast?_dropEndWhile {α : Type} [BEq α] [LawfulBEq α] (a : α) (s : List α) :
    (dropEndWhile (· == a) s).getLast? ≠ some a := by
  rw [dropEndWhile_eq]
  intro h
  have hne : s.rdropWhile (· == a) ≠ [] := by
    intro hnil
    rw [hnil] at h
    cases h
  rw [List.getLast?_eq_some_getLast hne, Option.some.injEq] at h
  exact List.rdropWhile_last_not (· == a) s hne (beq_iff_eq.mpr h)

/-- Slashes are dropped from letters as from characters. -/
theorem dropEndWhile_ofChars (s : List Char) :
    dropEndWhile (· == .char '/') (ofChars s) = ofChars (dropEndWhile (· == '/') s) := by
  have hslash : (fun l : Letter => l == .char '/') ∘ Letter.char = (· == '/') := by
    funext c
    rw [Function.comp_apply, Bool.eq_iff_iff, beq_iff_eq, beq_iff_eq, Letter.char.injEq]
  rw [dropEndWhile, dropEndWhile, ofChars, ← List.map_reverse, List.dropWhile_map, hslash, ← List.map_reverse]
  rfl

end Text

namespace Initializer

/-- **What is left of an encoded path is an encoded path**, which begins with a slash if that does. -/
theorem exists_encode_of_encode {safe : List Char} (hsafe : '/' ∈ safe) (s : List Char) :
    ∃ short : List Char, (s.head? = some '/' → short.head? = some '/') ∧
      withoutTrailingSlash (Text.ofChars (Percent.encode safe s)) = Text.ofChars (Percent.encode safe short) := by
  rw [withoutTrailingSlash, Text.dropEndWhile_ofChars, Text.dropEndWhile_encode hsafe]
  cases hkept : Text.dropEndWhile (· == '/') s with
  | nil =>
    refine ⟨['/'], fun _ => rfl, ?_⟩
    rw [Text.Percent.encode_cons, Text.encodeChar_slash hsafe]
    rfl
  | cons c kept =>
    have hprefix : c :: kept <+: s := hkept ▸ List.rdropWhile_prefix _ _
    obtain ⟨rest, rfl⟩ := hprefix
    refine ⟨c :: kept, id, if_neg ?_⟩
    rw [List.isEmpty_iff, Text.ofChars_eq_nil_iff, Text.Percent.encode_cons]
    exact List.append_ne_nil_of_left_ne_nil (Text.percentEncodeChar_ne_nil safe c) _

/-- What is left of a path with a slash at its beginning has it, too. -/
theorem head?_withoutTrailingSlash {path : Letters} (h : path.head? = some (.char '/')) :
    (withoutTrailingSlash path).head? = some (.char '/') := by
  rw [withoutTrailingSlash]
  cases hkept : Text.dropEndWhile (· == .char '/') path with
  | nil => rfl
  | cons c kept =>
    have hprefix : c :: kept <+: path := hkept ▸ List.rdropWhile_prefix _ _
    obtain ⟨rest, rfl⟩ := hprefix
    exact h

/-- **Nothing is left to redirect.** -/
theorem not_trailing_withoutTrailingSlash (path : Letters) : ¬ Trailing (withoutTrailingSlash path) := by
  rw [Trailing, withoutTrailingSlash]
  rintro ⟨hlength, hlast⟩
  split at hlast
  · next hempty =>
    rw [if_pos hempty] at hlength
    exact absurd hlength (by decide)
  · exact Text.getLast?_dropEndWhile _ _ hlast

/-- What is sent as the location: the path without the slashes at its end, and the query. -/
def redirection (path query : Letters) : Letters :=
  if query.isEmpty then withoutTrailingSlash path else withoutTrailingSlash path ++ "?" ++ query

/-- **A path that ends in a slash is redirected**, with its query. -/
theorem result_of_trailing {x : Exchange} (h : Trailing x.path) :
    (noTrailingSlash.apply x).result = .ok (some (.redirect .movedPermanently (redirection x.path x.query) "")) := by
  rw [apply, applyNoTrailingSlash, if_neg]
  · rfl
  · rw [not_or, Nat.not_le, not_not]
    exact h

theorem redirection_eq (path query : Letters) :
    redirection path query = withoutTrailingSlash path ++ if query.isEmpty then [] else .char '?' :: query := by
  rw [redirection]
  split
  · exact (List.append_nil _).symm
  · exact List.append_assoc _ _ _

/-- The location is taken for a path of the application unless it begins with two slashes. -/
theorem isLocalPath_redirection {path : Letters} (h : path.head? = some (.char '/')) (query : Letters) :
    Reply.isLocalPath (redirection path query) =
      !([.char '/', .char '/'].isPrefixOf (withoutTrailingSlash path)) := by
  have hhead := head?_withoutTrailingSlash h
  rw [redirection_eq]
  generalize withoutTrailingSlash path = short at hhead
  obtain ⟨rest, rfl⟩ := List.head?_eq_some_iff.mp hhead
  cases rest with
  | nil => cases query.isEmpty <;> rfl
  | cons c rest =>
    rw [List.cons_append, List.cons_append, Reply.isLocalPath.eq_def]
    split
    · next hslashes =>
      cases hslashes
      rfl
    · next tail hc htail =>
      obtain rfl := (List.cons.inj htail).2
      have hne : .char '/' ≠ c := by
        rintro rfl
        exact hc _ rfl
      simp [List.isPrefixOf, hne]
    · next hnone => exact absurd rfl (hnone _)

/-- The location has an encoding if what is left of the path and the query have one. -/
theorem isSome_plain?_redirection {path : Letters} {short query : List Char}
    (h : withoutTrailingSlash path = Text.ofChars short) :
    (Text.plain? (redirection path (Text.ofChars query))).isSome := by
  rw [redirection_eq, h, Text.plain?_append, Text.plain?_ofChars]
  split
  · rfl
  · rw [← Text.ofChars_cons, Text.plain?_ofChars]
    rfl

end Initializer

/-! ## Paths of a server -/

namespace Environ

/-- A path of a server that begins with a slash is that of some text that does. -/
theorem path_eq_ok {env : Environ} {info path : String} (hinfo : env.get? "PATH_INFO" = some info)
    (hslash : info.toList.head? = some '/') (h : env.path = .ok path) :
    ∃ s : List Char, s.head? = some '/' ∧ path = String.ofList (Percent.encode pathSafe s) := by
  obtain ⟨rest, hrest⟩ := List.head?_eq_some_iff.mp hslash
  have hne : info ≠ "" := by
    rw [ne_eq, ← String.toList_eq_nil_iff, hrest]
    exact List.cons_ne_nil _ _
  rw [Environ.path, hinfo, Option.getD_some, orRoot_of_ne hne, octets?, hrest, List.mapM_cons, if_pos (by decide)] at h
  cases hoctets : rest.mapM fun c => if c.toNat < 256 then some (UInt8.ofNat c.toNat) else none with
  | none =>
    rw [hoctets] at h
    cases h
  | some octets =>
    rw [hoctets] at h
    cases h
    exact ⟨'/' :: Text.Utf8.decode octets, rfl, rfl⟩

/-- A request has the path and the query of the server. -/
theorem request_eq_ok {env : Environ} {request : Request} (h : env.request = .ok request) :
    ∃ path : String, env.path = .ok path ∧ request.path = path ∧
      request.query = Text.ofString ((env.get? "QUERY_STRING").getD "") := by
  rw [Environ.request] at h
  cases hpath : env.path with
  | error f =>
    rw [hpath] at h
    cases h
  | ok path =>
    cases hbody : env.body with
    | error f =>
      rw [hpath, hbody] at h
      cases h
    | ok body =>
      rw [hpath, hbody] at h
      cases h
      exact ⟨path, rfl, rfl, rfl⟩

/-- An absolute location begins with the scheme. -/
theorem exists_absolute (env : Environ) (path : Letters) :
    ∃ rest, env.absolute path = Text.ofString ((env.get? "wsgi.url_scheme").getD "http") ++ rest := by
  rw [absolute]
  simp only [List.append_assoc]
  exact ⟨_, rfl⟩

/-- **A client that follows the redirect asks for the path that it was sent**, which is an encoded one. -/
theorem path_of_encoded {s : List Char} (hslash : s.head? = some '/') {env : Environ}
    (henv : env.get? "PATH_INFO" = some (latin1 (Percent.octets (Percent.encode pathSafe s)))) :
    env.path = .ok (String.ofList (Percent.encode pathSafe s)) := by
  rw [path_of_delivered (Text.head?_encode (by decide) hslash) henv, Text.Percent.decode_encode pathSafe_plain]

end Environ

/-! ## Replies -/

/-- The location of a response is made absolute if it is taken for a path of the application. -/
theorem Reply.get?_location_ofResponse (env : Environ) (server : String) (request : Request) {r : Response}
    {location : Letters} (h : r.headers.get? "Location" = some location) :
    (ofResponse env server request r).headers.get? "Location" =
      some (if isLocalPath location then env.absolute location else location) := by
  show Fields.get? _ (Fields.setDefault "Server" (server : Letters) (Fields.setDefault "Content-Length" _ _)) = _
  rw [Fields.get?_setDefault_of_ne (by decide), Fields.get?_setDefault_of_ne (by decide), absoluteLocation, h]
  dsimp only
  split
  · exact Fields.get?_set_self _ _ _
  · exact h

namespace Dispatcher

open Initializer (Trailing withoutTrailingSlash redirection)

/-- A dispatcher has the initializers of its configuration and those it was given. -/
theorem initializers_of_make {config : Config} {routes : Except Fault (RouteTable κ)} {renderer : Option Renderer}
    {views : Views} {factory : κ → Except Failure κ} {observer : Observer} {extra : List Initializer}
    {d : Dispatcher κ} (h : make config routes renderer views factory observer extra = .ok d) :
    d.initializers = config.initializers ++ extra := by
  rw [make] at h
  cases hvalid : config.validate with
  | error f =>
    rw [hvalid] at h
    cases h
  | ok valid =>
    cases routes with
    | error f =>
      rw [hvalid] at h
      cases h
    | ok t =>
      rw [hvalid] at h
      cases h
      rfl

variable {d : Dispatcher κ} {w : World κ}

/-- A path that ends in a slash settles that it is redirected, if the initializer for that comes first. -/
theorem settled_of_trailing {rest : List Initializer} (hfirst : d.initializers = .noTrailingSlash :: rest)
    {x : Exchange} (habsolute : x.path.head? = some (.char '/')) (htrailing : Trailing x.path) :
    d.prepared x = x ∧
      d.settled w x = .ok (.error (.redirect .movedPermanently (redirection x.path x.query) "")) := by
  have hresult := Initializer.result_of_trailing htrailing
  have hended : (Initializer.noTrailingSlash.apply x).result ≠ .ok none := by
    rw [hresult]
    nofun
  refine ⟨?_, ?_⟩
  · rw [prepared, executed, if_neg (not_not_intro habsolute), hfirst, Initializer.applied_of_ended hended]
    exact Initializer.applyNoTrailingSlash_exchange x
  · rw [settled, admission, if_neg (not_not_intro habsolute), hfirst, Initializer.verdict_of_ended hended, hresult]

/-- The reply to a path that ends in a slash, if the initializer for that comes first. -/
theorem reply_of_trailing {rest : List Initializer} (hfirst : d.initializers = .noTrailingSlash :: rest)
    (s : Surroundings) {env : Environ} {request : Request} (hrequest : env.request = .ok request)
    (habsolute : request.path.head? = some (.char '/')) (htrailing : Trailing request.path)
    (hplain : (Text.plain? (redirection request.path request.query)).isSome) :
    ∃ reply, (d.serve w s env).1 = .ok reply ∧ reply.status = Text.ofString "301 Moved Permanently" ∧
      reply.headers.get? "Location" = some
        (if [.char '/', .char '/'].isPrefixOf (withoutTrailingSlash request.path)
          then redirection request.path request.query
          else env.absolute (redirection request.path request.query)) := by
  obtain ⟨hprepared, hsettled⟩ := settled_of_trailing (w := w) hfirst
    (x := .ofRequest request s.requestId) habsolute htrailing
  rcases d.dispatch_settled w s request with ⟨hclosing, -⟩ | ⟨-, attempts, hanswer⟩
  · rw [hprepared] at hclosing
    cases hclosing
  · rw [hsettled] at hanswer
    obtain ⟨response, hresponse, hstatus, hreason, hlocation⟩ := answer_redirect hanswer
    refine ⟨Reply.ofResponse env d.config.serverName request response, ?_, ?_, ?_⟩
    · rw [serve_of_ok hrequest, hresponse]
      rfl
    · show response.statusText = _
      rw [Response.statusText, hstatus, hreason]
      rfl
    · rw [Reply.get?_location_ofResponse _ _ _ (hlocation hplain)]
      show some (if Reply.isLocalPath (redirection request.path request.query) then _ else _) = _
      rw [Initializer.isLocalPath_redirection habsolute]
      cases [.char '/', .char '/'].isPrefixOf (withoutTrailingSlash request.path) <;> rfl

/-- **The reply to a path that ends in a slash.** A dispatcher whose configuration asks for that redirects it, whatever
else a server says about the request and whatever routes there are: to the path without the slashes at its end, with the
query unchanged. The gateway makes that location absolute, under its own host and mount point, unless the path begins
with two slashes; it is sent as it is then, and names another host to the client. A client that asks for the path, as
the server hands it over, is not redirected again. -/
theorem serve_trailing {config : Config} {routes : Except Fault (RouteTable κ)} {renderer : Option Renderer}
    {views : Views} {factory : κ → Except Failure κ} {observer : Observer} {extra : List Initializer}
    (hmake : make config routes renderer views factory observer extra = .ok d)
    (hpolicy : config.trailingSlashRedirect = true) (s : Surroundings) {env : Environ} {request : Request}
    {info : String} (hinfo : env.get? "PATH_INFO" = some info) (hslash : info.toList.head? = some '/')
    (hrequest : env.request = .ok request) (htrailing : Trailing request.path) :
    ∃ reply, (d.serve w s env).1 = .ok reply ∧ reply.status = Text.ofString "301 Moved Permanently" ∧
      reply.headers.get? "Location" = some
        (if [.char '/', .char '/'].isPrefixOf (withoutTrailingSlash request.path)
          then redirection request.path (Text.ofString ((env.get? "QUERY_STRING").getD ""))
          else env.absolute (redirection request.path (Text.ofString ((env.get? "QUERY_STRING").getD "")))) ∧
      ∃ short : String, withoutTrailingSlash request.path = short ∧ short.toList.head? = some '/' ∧
        ∀ env' : Environ, env'.get? "PATH_INFO" = some (Environ.latin1 (Percent.octets short.toList)) →
          env'.path = .ok short ∧
            ∀ x : Exchange, x.path = short → (Initializer.noTrailingSlash.apply x).result = .ok none := by
  obtain ⟨path, hpath, hrequested, hquery⟩ := Environ.request_eq_ok hrequest
  obtain ⟨s', hhead, rfl⟩ := Environ.path_eq_ok hinfo hslash hpath
  have hsafe : '/' ∈ Environ.pathSafe := by decide
  rw [Text.ofString_ofList] at hrequested
  obtain ⟨short, hshort, hkept⟩ := Initializer.exists_encode_of_encode hsafe s'
  rw [← hrequested] at hkept
  have habsolute : request.path.head? = some (.char '/') := by
    rw [hrequested, Text.ofChars, List.head?_map, Text.head?_encode hsafe hhead]
    rfl
  have hplain : (Text.plain? (redirection request.path request.query)).isSome := by
    rw [hquery]
    exact Initializer.isSome_plain?_redirection hkept
  obtain ⟨rest, hfirst⟩ : ∃ rest, d.initializers = .noTrailingSlash :: rest := by
    rw [initializers_of_make hmake, Config.initializers, if_pos hpolicy]
    exact ⟨_, rfl⟩
  obtain ⟨reply, hreply, hstatus, hlocation⟩ := reply_of_trailing (w := w) hfirst s hrequest habsolute htrailing hplain
  refine ⟨reply, hreply, hstatus, hquery ▸ hlocation, String.ofList (Percent.encode Environ.pathSafe short), ?_, ?_, ?_⟩
  · rw [hkept, Text.ofString_ofList]
  · rw [String.toList_ofList]
    exact Text.head?_encode hsafe (hshort hhead)
  · intro env' hfollowed
    rw [String.toList_ofList] at hfollowed
    refine ⟨Environ.path_of_encoded (hshort hhead) hfollowed, ?_⟩
    intro x hx
    have hnot : ¬ Trailing x.path := by
      rw [hx, Text.ofString_ofList, ← hkept]
      exact Initializer.not_trailing_withoutTrailingSlash _
    rw [Initializer.apply_noTrailingSlash_of_not hnot]
    rfl

end Dispatcher

/-! ## A store -/

/-- What a server says about a request to a store, which is mounted at `/store`. -/
def Environ.store (path query : String) : Environ where
  entries := [("SCRIPT_NAME", "/store"), ("PATH_INFO", path), ("QUERY_STRING", query), ("HTTP_HOST", "shop.example")]
  input := none

namespace Dispatcher

open Initializer (Trailing withoutTrailingSlash redirection)

/-- A dispatcher with a single page and the default configuration. -/
def plainPage : Dispatcher Unit :=
  { onePage .text with initializers := ({} : Config).initializers }

/-- A request to the store for a path and a query. -/
def slashed (path query : Letters) : Request :=
  .make "GET" path query [("Host", "shop.example")] []

/-- The path of the page is redirected inside the store. -/
theorem serve_trailing_page :
    make {} (.ok (onePage .text).routes) (some .text) (.ofFiles []) plainFactory .log [] = .ok plainPage ∧
      ({} : Config).trailingSlashRedirect = true ∧
      (Environ.store "/page/" "a=1").get? "PATH_INFO" = some "/page/" ∧ "/page/".toList.head? = some '/' ∧
      (Environ.store "/page/" "a=1").request = .ok (slashed "/page/" "a=1") ∧ Trailing (slashed "/page/" "a=1").path ∧
      ∃ reply, (plainPage.serve .onePage .forPage (.store "/page/" "a=1")).1 = .ok reply ∧
        reply.status = Text.ofString "301 Moved Permanently" ∧
        reply.headers.get? "Location" = some (Text.ofString "http://shop.example/store/page?a=1") := by
  have hmake : make {} (.ok (onePage .text).routes) (some .text) (.ofFiles []) plainFactory .log [] = .ok plainPage :=
    rfl
  have hinfo : (Environ.store "/page/" "a=1").get? "PATH_INFO" = some "/page/" := rfl
  have hslash : "/page/".toList.head? = some '/' := rfl
  have hrequest : (Environ.store "/page/" "a=1").request = .ok (slashed "/page/" "a=1") := rfl
  have htrailing : Trailing (slashed "/page/" "a=1").path := by decide
  obtain ⟨reply, hreply, hstatus, hlocation, -, -⟩ :=
    serve_trailing (w := .onePage) hmake rfl .forPage hinfo hslash hrequest htrailing
  have hquery : ((Environ.store "/page/" "a=1").get? "QUERY_STRING").getD "" = "a=1" := rfl
  have hinside : ¬ [.char '/', .char '/'].isPrefixOf (withoutTrailingSlash (slashed "/page/" "a=1").path) = true := by
    decide
  have hredirection : redirection (slashed "/page/" "a=1").path "a=1" = Text.ofString "/page?a=1" := by decide
  have habsolute : (Environ.store "/page/" "a=1").absolute "/page?a=1" =
      Text.ofString "http://shop.example/store/page?a=1" := by
    decide
  rw [hquery, if_neg hinside, hredirection, habsolute] at hlocation
  exact ⟨hmake, rfl, hinfo, hslash, hrequest, htrailing, reply, hreply, hstatus, hlocation⟩

/-- **A path that begins with two slashes is redirected to another host**, out of the store. -/
theorem redirect_to_host :
    (∃ reply, (plainPage.serve .onePage .forPage (.store "//evil.example/" "")).1 = .ok reply ∧
      reply.status = Text.ofString "301 Moved Permanently" ∧
      reply.headers.get? "Location" = some (Text.ofString "//evil.example")) ∧
      ∀ q, (Environ.store "//evil.example/" "").absolute q ≠ Text.ofString "//evil.example" := by
  refine ⟨?_, ?_⟩
  · obtain ⟨rest, hfirst⟩ : ∃ rest, plainPage.initializers = .noTrailingSlash :: rest := ⟨_, rfl⟩
    have hrequest : (Environ.store "//evil.example/" "").request = .ok (slashed "//evil.example/" "") := rfl
    obtain ⟨reply, hreply, hstatus, hlocation⟩ :=
      reply_of_trailing (w := .onePage) hfirst .forPage hrequest (by decide) (by decide) (by decide)
    have houtside :
        [.char '/', .char '/'].isPrefixOf (withoutTrailingSlash (slashed "//evil.example/" "").path) = true := by
      decide
    have hredirection : redirection (slashed "//evil.example/" "").path "" = Text.ofString "//evil.example" := by decide
    rw [if_pos houtside] at hlocation
    exact ⟨reply, hreply, hstatus, hlocation.trans (congrArg some hredirection)⟩
  · -- Absolute locations begin with the scheme.
    intro q h
    obtain ⟨rest, hscheme⟩ := (Environ.store "//evil.example/" "").exists_absolute q
    have hhttp : ((Environ.store "//evil.example/" "").get? "wsgi.url_scheme").getD "http" = "http" := rfl
    rw [h, hhttp] at hscheme
    have hhead : (Text.ofString "//evil.example").head? = some (.char 'h') := congrArg List.head? hscheme
    exact absurd hhead (by decide)

end Dispatcher

end HttpRouter
