import Skimasque.Core.TargetText
import Skimasque.Library.Encoding
import Skimasque.Library.Lines

/-! Requests to the proxy: `CONNECT`, and plain HTTP requests rewritten for the origin server. -/

set_option autoImplicit false

namespace Skimasque.Cli
open Library Library.Lines Skimasque.Core

def isDelimiter (c : Char) : Bool := ['/', '?', '#'].contains c

def scheme : Line := "http://".toList

/-- The authority of an absolute-form `http://` target, without any userinfo. -/
def plainHttpAuthority (target : Line) : Option Line :=
  -- The source takes as many bytes. Bytes that spell the scheme are as many characters.
  if (target.take scheme.length).map Char.toLower = scheme then
    let authority := (target.drop scheme.length).takeWhile (!isDelimiter ·)
    let host := match Text.splitAtFirst '@' authority.reverse with
      | some (host, _) => host.reverse
      | none => authority
    if host.isEmpty then none else some host
  else none

/-- The three parts of the request line, which is all up to the first CRLF. -/
def requestParts (text : Line) : Option (Line × Line × Line) :=
  match ((splitCrlf text).headD []).splitOn ' ' with
  | [method, target, version] => some (method, target, version)
  | _ => none

/-- Headers a proxy must not pass on, whatever the request says. -/
def hopByHop : List Line :=
  ["connection", "proxy-connection", "proxy-authorization", "proxy-authenticate", "keep-alive", "te", "upgrade",
    "host"].map String.toList

def trim (chars : Line) : Line := (chars.dropWhile Text.isWhitespace).rdropWhile Text.isWhitespace

def toAsciiLowercase (chars : Line) : Line := chars.map Char.toLower

/-- The header lines, up to the first empty one. -/
def headerLines (text : Line) : List Line := (splitCrlf text).tail.takeWhile (!·.isEmpty)

/-- What the `Connection` headers name. -/
def named (headers : List Line) : List Line :=
  headers.flatMap fun header =>
    match Text.splitAtFirst ':' header with
    | some (name, value) =>
      if toAsciiLowercase (trim name) = "connection".toList then
        (value.splitOn ',').map fun token => toAsciiLowercase (trim token)
      else []
    | none => []

/-- A header of that name is not passed on. -/
def isDropped (named : List Line) (name : Line) : Bool :=
  hopByHop.contains (toAsciiLowercase (trim name)) || named.contains (toAsciiLowercase (trim name))

/-- The target in origin form. -/
def originPath (target : Line) : Line :=
  let afterAuthority := (target.drop scheme.length).dropWhile (!isDelimiter ·)
  match afterAuthority with
  | [] => ['/']
  | '/' :: _ => afterAuthority
  -- A query or a fragment.
  | _ => '/' :: afterAuthority

def hasPort (authority : Line) : Bool :=
  match authority with
  | '[' :: v6 =>
    match Text.splitAtFirst ']' v6 with
    | some (_, behind) => behind.head? == some ':'
    | none => false
  | _ => authority.contains ':'

/-- `host:port` to tunnel to; port 80 when the URL named none. -/
def tunnelTarget (authority : Line) : Line := if hasPort authority then authority else authority ++ ":80".toList

section
variable {text method url version authority : Line}

theorem requestParts_eq_some_iff : requestParts text = some (method, url, version) ↔
    (splitCrlf text).headD [] = method ++ ' ' :: (url ++ ' ' :: version) ∧ ' ' ∉ method ∧ ' ' ∉ url ∧ ' ' ∉ version := by
  rw [← Text.splitOn_eq_three_iff, requestParts]
  constructor
  · intro parts
    split at parts
    · rename_i first second third split
      cases parts
      exact split
    · cases parts
  · intro split
    rw [split]

/-- The authority ends where the path, the query or the fragment starts, and lies behind any userinfo. -/
theorem plainHttpAuthority_within (found : plainHttpAuthority url = some authority) : authority <:+: url := by
  unfold plainHttpAuthority at found
  split at found
  · have inUrl : (url.drop scheme.length).takeWhile (!isDelimiter ·) <:+: url :=
      (List.takeWhile_prefix _).isInfix.trans (List.drop_suffix _ _).isInfix
    simp only [Option.ite_none_left_eq_some, Option.some.injEq] at found
    obtain ⟨-, host⟩ := found
    cases split : Text.splitAtFirst '@' ((url.drop scheme.length).takeWhile (!isDelimiter ·)).reverse with
    | none =>
      rw [split] at host
      rw [← host]
      exact inUrl
    | some parts =>
      rw [split] at host
      have whole := congrArg List.reverse (Text.splitAtFirst_eq_some_iff.mp split).1
      rw [List.reverse_reverse, List.reverse_append, List.reverse_cons] at whole
      rw [← host]
      refine List.IsInfix.trans ?_ inUrl
      rw [whole]
      exact (List.suffix_append _ _).isInfix
  · cases found

theorem mem_originPath {c : Char} (member : c ∈ originPath url) : c = '/' ∨ c ∈ url := by
  have inUrl : (url.drop scheme.length).dropWhile (!isDelimiter ·) ⊆ url :=
    ((List.dropWhile_suffix _).trans (List.drop_suffix _ _)).subset
  unfold originPath at member
  simp only at member
  split at member
  · exact .inl (List.mem_singleton.mp member)
  · exact .inr (inUrl member)
  · rcases List.mem_cons.mp member with same | member
    · exact .inl same
    · exact .inr (inUrl member)

/-- The headers that are added. -/
def hostLine (authority : Line) : Line := "Host: ".toList ++ authority

def closeLine : Line := "Connection: close".toList

/-- The header lines that the rewriting keeps. -/
def keptHeaders (text : Line) : List Line :=
  (headerLines text).filter fun header => !isDropped (named (headerLines text)) (header.takeWhile (· != ':'))

/-- The rewritten head with that request line and those header lines. -/
def rewrittenText (line authority : Line) (headers : List Line) : Line :=
  line ++ crlf ++ hostLine authority ++ crlf ++ headers.flatMap (· ++ crlf) ++ (closeLine ++ crlf ++ crlf)

/-- A head that is rewritten and sent down a tunnel, in its parts. -/
structure Rewrites (head rewritten : List UInt8) (target : Target) (text method url version authority : Line) : Prop where
  decoded : Encoding.fromUtf8 head = some (String.ofList text)
  parts : requestParts text = some (method, url, version)
  host : plainHttpAuthority url = some authority
  named : ∀ header ∈ headerLines text, ':' ∈ header
  parsed : Target.parse (String.ofList (tunnelTarget authority)) = .ok target
  written : rewritten = Encoding.utf8 (String.ofList
    (rewrittenText (method ++ ' ' :: (originPath url ++ ' ' :: version)) authority (keptHeaders text)))

theorem splitLf_rewrittenText {line : Line} {headers : List Line} (clear : '\n' ∉ authority) :
    splitLf (rewrittenText line authority headers) = splitLf line ++
      hostLine authority :: (headers.flatMap splitLf ++ [closeLine]) ++ [[], []] := by
  have hostClear : '\n' ∉ hostLine authority := by
    intro member
    rcases List.mem_append.mp member with inName | inAuthority
    · exact absurd inName (by decide)
    · exact clear inAuthority
  have closing : splitLf (closeLine ++ crlf ++ crlf) = [closeLine, [], []] := by decide
  have ended : rewrittenText line authority headers =
      line ++ (crlf ++ (hostLine authority ++ (crlf ++ (headers.flatMap (· ++ crlf) ++ (closeLine ++ crlf ++ crlf))))) := by
    unfold rewrittenText
    simp only [List.append_assoc]
  have behind : splitLf (headers.flatMap (· ++ crlf) ++ (closeLine ++ crlf ++ crlf)) =
      headers.flatMap splitLf ++ [closeLine, [], []] := (flatMap_splitLf _ _).trans (congrArg _ closing)
  rw [ended, splitLf_append line, splitLf_append (hostLine authority), behind, splitLf_single hostClear]
  simp

end

end Skimasque.Cli
