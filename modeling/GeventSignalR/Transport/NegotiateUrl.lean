import GeventSignalR.Transport.Renegotiation

/-!
# The URL of a negotiate request

What `_get_negotiate_url` does to a URL.

* `wellFormed_negotiatePath`: the URL stays well-formed under the new path.
* `urlsplit_getNegotiateUrl`: `/negotiate` stands behind the path without its trailing slashes, and
  the scheme is one of HTTP; the rest stays as it is.
-/

namespace GeventSignalR
namespace WebsocketTransport

open Urllib

/-! ## The path -/

/-- Trailing slashes are taken away, and nothing else. -/
theorem rstripSlash_append (path : String) :
    ∃ slashes, path.toList = (rstripSlash path).toList ++ slashes ∧ ∀ c ∈ slashes, c = '/' := by
  refine ⟨(path.toList.reverse.takeWhile (· == '/')).reverse, ?_, ?_⟩
  · rw [rstripSlash, String.toList_ofList, ← List.reverse_append, List.takeWhile_append_dropWhile,
      List.reverse_reverse]
  · intro c hc
    simpa using List.mem_takeWhile_imp (List.mem_reverse.mp hc)

/-- The path of a negotiate request. -/
def negotiatePath (path : String) : String :=
  rstripSlash path ++ "/negotiate"

/-! ## The URL -/

theorem mapScheme_wsToHttp (scheme : String) :
    scheme = "ws" ∧ mapScheme wsToHttp scheme = "http" ∨
      scheme = "wss" ∧ mapScheme wsToHttp scheme = "https" ∨
        mapScheme wsToHttp scheme = scheme := by
  by_cases hws : scheme = "ws"
  · subst hws
    exact .inl ⟨rfl, rfl⟩
  by_cases hwss : scheme = "wss"
  · subst hwss
    exact .inr (.inl ⟨rfl, rfl⟩)
  · have hne : (scheme == "ws") = false := by simpa using hws
    have hne' : (scheme == "wss") = false := by simpa using hwss
    exact .inr (.inr (by simp [mapScheme, wsToHttp, List.lookup_cons, hne, hne']))

/-- The parts stay well-formed under the path of a negotiate request. -/
theorem wellFormed_negotiatePath {parts : SplitResult} (h : (chars parts).WellFormed) :
    (chars { parts with path := negotiatePath parts.path }).WellFormed := by
  obtain ⟨slashes, hpath, -⟩ := rstripSlash_append parts.path
  have hname : ∀ c ∈ "negotiate".toList, c ≠ '?' ∧ c ≠ '#' ∧ Python.Url.isUnsafe c = false := by
    simp [Python.Url.isUnsafe]
  have hnegotiate : (negotiatePath parts.path).toList =
      (rstripSlash parts.path).toList ++ '/' :: "negotiate".toList :=
    String.toList_append
  have hwell : { chars parts with
      path := (rstripSlash parts.path).toList ++ '/' :: "negotiate".toList }.WellFormed :=
    h.path_slash hpath hname
  rwa [← hnegotiate] at hwell

theorem wellFormed_wsToHttp {parts : SplitResult} (h : (chars parts).WellFormed) :
    (chars { parts with scheme := mapScheme wsToHttp parts.scheme }).WellFormed := by
  rcases mapScheme_wsToHttp parts.scheme with ⟨-, hhttp⟩ | ⟨-, hhttps⟩ | hsame
  · rw [hhttp]
    exact wellFormed_scheme h ⟨by decide, by decide, by decide⟩
  · rw [hhttps]
    exact wellFormed_scheme h ⟨by decide, by decide, by decide⟩
  · rw [hsame]
    exact h

theorem getNegotiateUrl_eq (urllib : Urllib) (url : String) {parts : SplitResult}
    (hparts : urllib.urlsplit url = parts) :
    getNegotiateUrl urllib url =
      urllib.urlunsplit { parts with
        scheme := mapScheme wsToHttp parts.scheme
        path := negotiatePath parts.path } := by
  subst hparts
  rfl

/-- The parts of the URL `_get_negotiate_url` returns. -/
theorem urlsplit_getNegotiateUrl (url : String) :
    python.urlsplit (getNegotiateUrl python url) =
      { python.urlsplit url with
        scheme := mapScheme wsToHttp (python.urlsplit url).scheme
        path := negotiatePath (python.urlsplit url).path } := by
  have hwell := wellFormed_urlsplit url
  generalize hparts : python.urlsplit url = parts at hwell
  rw [getNegotiateUrl_eq python url hparts]
  exact urlsplit_urlunsplit (wellFormed_wsToHttp (wellFormed_negotiatePath hwell))

end WebsocketTransport
end GeventSignalR
