import ActionFlow.Proofs.Validation.FormDefinitions
import Mathlib.Data.List.TakeWhile

/-!
# The hosts of web addresses

An authority is user information, a host and a port, of which any may be missing. What is read
as a web address has an authority that splits into these in one way only. Its host is missing
just when user information and a port are all that there is, which recognition lets pass: it asks
for an authority, and not for a host.
-/

namespace ActionFlow

namespace Format

/-- The parts of an authority. -/
@[ext] structure AuthorityParts where
  /-- The user information, with the at sign that ends it. -/
  user : List Char
  /-- The host, without the brackets around it. -/
  host : List Char
  /-- The port, with the colon that begins it. -/
  port : List Char

/-- How a host and the port after it are written. -/
inductive HostWritten (host port : List Char) : List Char → Prop where
  /-- The host stands by itself. -/
  | plain (undivided : ':' ∉ host) (bare : '[' ∉ host) : HostWritten host port (host ++ port)
  /-- The host stands in brackets. The closing one may be missing at the end. -/
  | bracketed {closing : List Char} (enclosed : ']' ∉ host)
    (closed : closing = [']'] ∨ closing = [] ∧ port = []) :
    HostWritten host port ('[' :: (host ++ (closing ++ port)))

/-- An authority splits into parts. The last at sign ends the user information. -/
structure AuthorityParts.Splits (p : AuthorityParts) (authority : List Char) : Prop where
  /-- The host and the port are written after the user information. -/
  written : ∃ place, authority = p.user ++ place ∧ '@' ∉ place ∧ HostWritten p.host p.port place
  /-- The user information ends with an at sign. -/
  user : p.user = [] ∨ p.user.getLast? = some '@'
  /-- The port begins with a colon. -/
  port : p.port = [] ∨ p.port.head? = some ':'

/-- An authority is user information and a port, with nothing between them. -/
def LacksHost (authority : List Char) : Prop :=
  ∃ user port, authority = user ++ port ∧ '@' ∉ port ∧ (user = [] ∨ user.getLast? = some '@') ∧
    (port = [] ∨ port.head? = some ':')

/-- What a web address is made of. -/
structure UrlParts.IsWeb (u : UrlParts) (p : AuthorityParts) : Prop where
  /-- The scheme is one of the web. -/
  scheme : u.scheme = "http".toList ∨ u.scheme = "https".toList
  /-- There is an authority. -/
  authority : u.authority ≠ []
  /-- It splits into the parts. -/
  splits : p.Splits u.authority
  /-- It splits into no others. -/
  unique : ∀ q : AuthorityParts, q.Splits u.authority → q = p

/-! ### Cutting at a character -/

/-- The part of a text before a character stands before the rest, which begins with it. -/
theorem takeWhile_append_of_head {divider : Char} {front rest : List Char}
    (hfront : divider ∉ front) (hrest : rest = [] ∨ rest.head? = some divider) :
    (front ++ rest).takeWhile (· != divider) = front := by
  have hpass : ∀ c ∈ front, (c != divider) = true := fun c hc =>
    bne_iff_ne.mpr fun he => hfront (he ▸ hc)
  rw [List.takeWhile_append_of_pos hpass]
  rcases hrest with rfl | hhead
  · simp
  · obtain ⟨after, rfl⟩ := List.head?_eq_some_iff.mp hhead
    simp

/-- A text is not cut in two ways at the first place of a character. -/
theorem append_inj_of_head {divider : Char} {front front' rest rest' : List Char}
    (hfront : divider ∉ front) (hrest : rest = [] ∨ rest.head? = some divider)
    (hfront' : divider ∉ front') (hrest' : rest' = [] ∨ rest'.head? = some divider)
    (h : front ++ rest = front' ++ rest') : front = front' ∧ rest = rest' := by
  have hsame : front = front' := by
    rw [← takeWhile_append_of_head hfront hrest, h, takeWhile_append_of_head hfront' hrest']
  exact ⟨hsame, List.append_cancel_left (hsame ▸ h)⟩

/-- A text is not cut in two ways after the last place of a character. -/
theorem append_inj_of_getLast {divider : Char} {front front' rest rest' : List Char}
    (hfront : front = [] ∨ front.getLast? = some divider) (hrest : divider ∉ rest)
    (hfront' : front' = [] ∨ front'.getLast? = some divider) (hrest' : divider ∉ rest')
    (h : front ++ rest = front' ++ rest') : front = front' ∧ rest = rest' := by
  have hmirror : rest.reverse ++ front.reverse = rest'.reverse ++ front'.reverse := by
    rw [← List.reverse_append, h, List.reverse_append]
  have hcut := append_inj_of_head (by simpa using hrest) (by simpa using hfront)
    (by simpa using hrest') (by simpa using hfront') hmirror
  exact ⟨List.reverse_injective hcut.2, List.reverse_injective hcut.1⟩

/-- What is left of a text from the first place of a character on begins with it. -/
theorem dropWhile_eq_nil_or_head (divider : Char) (text : List Char) :
    text.dropWhile (· != divider) = [] ∨
      (text.dropWhile (· != divider)).head? = some divider := by
  cases hrest : text.dropWhile (· != divider) with
  | nil => exact .inl rfl
  | cons c rest =>
    have hstop := List.head?_dropWhile_not (· != divider) text
    rw [hrest] at hstop
    exact .inr (by simpa using hstop)

/-- A character is not in the part of a text before its first place. -/
theorem not_mem_takeWhile (divider : Char) (text : List Char) :
    divider ∉ text.takeWhile (· != divider) := fun h => by
  simpa using List.mem_takeWhile_imp h

/-- A text is what stands up to the last place of a character and what stands after it. -/
theorem exists_append_afterLast (divider : Char) (text : List Char) :
    ∃ front, text = front ++ afterLast divider text ∧ divider ∉ afterLast divider text ∧
      (front = [] ∨ front.getLast? = some divider) := by
  have hcut : text.reverse.takeWhile (· != divider) ++ text.reverse.dropWhile (· != divider) =
      text.reverse := List.takeWhile_append_dropWhile
  refine ⟨(text.reverse.dropWhile (· != divider)).reverse, ?_, ?_, ?_⟩
  · unfold afterLast
    rw [← List.reverse_append, hcut, List.reverse_reverse]
  · unfold afterLast
    rw [List.mem_reverse]
    exact not_mem_takeWhile divider _
  · simpa using dropWhile_eq_nil_or_head divider text.reverse

/-! ### Hosts and ports -/

/-- A host that stands by itself does not begin with a bracket. -/
theorem append_ne_cons_bracket {host port rest : List Char} (hbare : '[' ∉ host)
    (hport : port = [] ∨ port.head? = some ':') : host ++ port ≠ '[' :: rest := by
  intro h
  cases host with
  | nil =>
    rw [List.nil_append] at h
    simp [h] at hport
  | cons c host =>
    obtain ⟨rfl, -⟩ := List.cons.inj h
    exact hbare List.mem_cons_self

/-- A host and a port are not written alike with other ones. -/
theorem HostWritten.unique {host host' port port' place place' : List Char}
    (h : HostWritten host port place) (h' : HostWritten host' port' place')
    (hport : port = [] ∨ port.head? = some ':') (hport' : port' = [] ∨ port'.head? = some ':')
    (hplace : place = place') : host = host' ∧ port = port' := by
  cases h with
  | plain undivided bare =>
    cases h' with
    | plain undivided' bare' =>
      exact append_inj_of_head undivided hport undivided' hport' hplace
    | bracketed => exact absurd hplace (append_ne_cons_bracket bare hport)
  | bracketed enclosed closed =>
    cases h' with
    | plain undivided' bare' => exact absurd hplace.symm (append_ne_cons_bracket bare' hport')
    | bracketed enclosed' closed' =>
      have hclosing : ∀ {closing port : List Char}, closing = [']'] ∨ closing = [] ∧ port = [] →
          closing ++ port = [] ∨ (closing ++ port).head? = some ']' := by
        rintro closing port (rfl | ⟨rfl, rfl⟩) <;> simp
      obtain ⟨hhost, hafter⟩ := append_inj_of_head enclosed (hclosing closed) enclosed'
        (hclosing closed') (List.cons.inj hplace).2
      refine ⟨hhost, ?_⟩
      rcases closed with rfl | ⟨rfl, rfl⟩ <;> rcases closed' with rfl | ⟨rfl, rfl⟩ <;>
        simp_all

/-- An authority does not split in two ways. -/
theorem AuthorityParts.Splits.unique {p q : AuthorityParts} {authority : List Char}
    (hp : p.Splits authority) (hq : q.Splits authority) : q = p := by
  obtain ⟨place, htext, hat, hwritten⟩ := hp.written
  obtain ⟨place', htext', hat', hwritten'⟩ := hq.written
  obtain ⟨huser, hplace⟩ := append_inj_of_getLast hq.user hat' hp.user hat (htext' ▸ htext)
  obtain ⟨hhost, hport⟩ := hwritten'.unique hwritten hq.port hp.port hplace
  exact AuthorityParts.ext huser hhost hport

/-- A place without a host and an opening bracket is a port. -/
theorem HostWritten.eq_port {port place : List Char} (h : HostWritten [] port place)
    (hbare : '[' ∉ place) : place = port := by
  cases h with
  | plain => exact List.nil_append port
  | bracketed => exact absurd List.mem_cons_self hbare

/-- A place without an opening bracket is a host by itself and a port. -/
theorem exists_hostWritten_plain {place : List Char} (h : '[' ∉ place) :
    ∃ host port, HostWritten host port place ∧ (port = [] ∨ port.head? = some ':') := by
  have hcut : place.takeWhile (· != ':') ++ place.dropWhile (· != ':') = place :=
    List.takeWhile_append_dropWhile
  have hbare : '[' ∉ place.takeWhile (· != ':') := fun hmem =>
    h ((List.takeWhile_prefix _).subset hmem)
  have hwritten : HostWritten (place.takeWhile (· != ':')) (place.dropWhile (· != ':'))
      (place.takeWhile (· != ':') ++ place.dropWhile (· != ':')) :=
    .plain (not_mem_takeWhile ':' place) hbare
  exact ⟨_, _, hcut ▸ hwritten, dropWhile_eq_nil_or_head ':' place⟩

/-- What stands in the brackets of a host without fault is not empty. -/
theorem ne_nil_of_hostFault? {host : List Char} (h : hostFault? host = none) : host ≠ [] := by
  rintro rfl
  exact absurd h (by decide)

/-- A text is what stands before the first place of a character, that character, and what stands
after it. -/
theorem eq_append_cutAt {divider : Char} {text : List Char} (h : divider ∈ text) :
    text = (cutAt divider text).1 ++ divider :: (cutAt divider text).2 := by
  have hcut : text.takeWhile (· != divider) ++ text.dropWhile (· != divider) = text :=
    List.takeWhile_append_dropWhile
  have hrest : (text.dropWhile (· != divider)).head? = some divider := by
    refine (dropWhile_eq_nil_or_head divider text).resolve_left fun hnil => ?_
    rw [hnil, List.append_nil] at hcut
    exact not_mem_takeWhile divider text (hcut.symm ▸ h)
  obtain ⟨rest, hdrop⟩ := List.head?_eq_some_iff.mp hrest
  unfold cutAt
  rw [hdrop] at hcut ⊢
  exact hcut.symm

/-- A text after an opening bracket is a host with its closing bracket, if there is one, and what
stands after it. -/
theorem hostWritten_cutAt (bracketed : List Char) :
    HostWritten (cutAt ']' bracketed).1 (cutAt ']' bracketed).2 ('[' :: bracketed) := by
  have henclosed : ']' ∉ (cutAt ']' bracketed).1 := not_mem_takeWhile ']' bracketed
  by_cases hclose : ']' ∈ bracketed
  · have hwritten : HostWritten _ (cutAt ']' bracketed).2 _ :=
      .bracketed henclosed (.inl rfl)
    rwa [List.singleton_append, ← eq_append_cutAt hclose] at hwritten
  · have hpass : ∀ c ∈ bracketed, (c != ']') = true := fun c hc =>
      bne_iff_ne.mpr fun he => hclose (he ▸ hc)
    have hall : cutAt ']' bracketed = (bracketed, []) := by
      unfold cutAt
      rw [List.takeWhile_eq_self_iff.mpr hpass, List.dropWhile_eq_nil_iff.mpr hpass, List.drop_nil]
    have hwritten : HostWritten bracketed [] _ := .bracketed hclose (.inr ⟨rfl, rfl⟩)
    rw [hall]
    simpa using hwritten

/-- A place with an opening bracket, of an authority whose brackets are without fault, is a host in
brackets that is not empty, and a port. -/
theorem exists_hostWritten_bracketed {authority : List Char}
    (h : bracketedFault? authority = none) (hopen : '[' ∈ afterLast '@' authority) :
    ∃ host port, HostWritten host port (afterLast '@' authority) ∧
      (port = [] ∨ port.head? = some ':') ∧ host ≠ [] := by
  obtain ⟨before, bracketed, hcut⟩ :
      ∃ before bracketed, cutAt '[' (afterLast '@' authority) = (before, bracketed) := ⟨_, _, rfl⟩
  have hplace := eq_append_cutAt hopen
  unfold bracketedFault? at h
  dsimp only at h
  rw [if_pos (List.contains_iff_mem.mpr hopen)] at h
  rw [hcut] at h hplace
  dsimp only at h hplace
  split at h
  · cases h
  · next hsound =>
    simp only [Bool.or_eq_true, Bool.and_eq_true, Bool.not_eq_true', List.isEmpty_eq_false_iff,
      bne_iff_ne, not_or, not_and, not_not] at hsound
    obtain ⟨rfl, hport⟩ := hsound
    have hwritten := hostWritten_cutAt bracketed
    rw [hplace]
    exact ⟨_, _, hwritten, or_iff_not_imp_left.mpr hport, ne_nil_of_hostFault? h⟩

/-- An authority without fault whose place has an opening bracket has a closing one as well, and
the brackets are without fault. -/
theorem bracketedFault?_eq_none {authority : List Char} (h : authorityFault? authority = none)
    (hopen : '[' ∈ authority) : bracketedFault? authority = none := by
  unfold authorityFault? at h
  dsimp only at h
  rw [Option.or_eq_none_iff, List.contains_iff_mem.mpr hopen] at h
  have hclose : ']' ∈ authority := by
    by_contra hnone
    simp [hnone] at h
  simpa [hclose] using h.1

/-- An authority without fault splits, and its host is missing only when there is nothing between
user information and port. -/
theorem exists_splits {authority : List Char} (h : authorityFault? authority = none) :
    ∃ p : AuthorityParts, p.Splits authority ∧ (p.host = [] → LacksHost authority) := by
  obtain ⟨user, htext, hat, huser⟩ := exists_append_afterLast '@' authority
  by_cases hopen : '[' ∈ afterLast '@' authority
  · have hmem : '[' ∈ authority := htext ▸ List.mem_append_right user hopen
    obtain ⟨host, port, hwritten, hport, hhost⟩ :=
      exists_hostWritten_bracketed (bracketedFault?_eq_none h hmem) hopen
    exact ⟨⟨user, host, port⟩, ⟨⟨_, htext, hat, hwritten⟩, huser, hport⟩, fun hnil =>
      absurd hnil hhost⟩
  · obtain ⟨host, port, hwritten, hport⟩ := exists_hostWritten_plain hopen
    refine ⟨⟨user, host, port⟩, ⟨⟨_, htext, hat, hwritten⟩, huser, hport⟩, ?_⟩
    rintro rfl
    have hplace := hwritten.eq_port hopen
    exact ⟨user, port, hplace ▸ htext, hplace ▸ hat, huser, hport⟩

/-- An authority that is only user information and a port splits with no host between them. -/
theorem LacksHost.exists_splits {authority : List Char} (h : LacksHost authority) :
    ∃ p : AuthorityParts, p.Splits authority ∧ p.host = [] := by
  obtain ⟨user, port, htext, hat, huser, hport⟩ := h
  have hwritten : HostWritten [] port ([] ++ port) := .plain List.not_mem_nil List.not_mem_nil
  exact ⟨⟨user, [], port⟩, ⟨⟨port, htext, hat, hwritten⟩, huser, hport⟩, rfl⟩

/-- What is read as a web address is one, and its host is missing just when there is nothing
between user information and port. -/
theorem isWeb_of_readUrl {s : String} (h : readUrl s = .ok true) :
    ∃ p, (urlParts s.toList).IsWeb p ∧
      (p.host = [] ↔ LacksHost (urlParts s.toList).authority) := by
  unfold readUrl at h
  dsimp only at h
  split at h
  · cases h
  · next hfault =>
    have hread := Except.ok.inj h
    simp only [Bool.and_eq_true, Bool.or_eq_true, beq_iff_eq, Bool.not_eq_true',
      List.isEmpty_eq_false_iff] at hread
    obtain ⟨hscheme, hauthority⟩ := hread
    obtain ⟨p, hp, hmissing⟩ := exists_splits hfault
    refine ⟨p, ⟨hscheme, hauthority, hp, fun q hq => hp.unique hq⟩, hmissing, fun hlacks => ?_⟩
    obtain ⟨q, hq, hnil⟩ := hlacks.exists_splits
    rwa [← hp.unique hq]

/-- An authority with no user information that begins with no colon has a host. -/
theorem not_lacksHost {authority : List Char} (hne : authority ≠ []) (hat : '@' ∉ authority)
    (hcolon : authority.head? ≠ some ':') : ¬ LacksHost authority := by
  rintro ⟨user, port, rfl, -, huser, hport⟩
  rcases huser with rfl | hlast
  · rw [List.nil_append] at hne hcolon
    exact hport.elim hne hcolon
  · have hmem := List.mem_of_getLast? hlast
    exact hat (List.mem_append_left port hmem)

end Format

/-- A web address names a host between user information and port unless there is nothing between
them. For every text: if it is read as a web address, it has a scheme of the web and an authority,
which splits in just one way into user information, host and port, and the host is missing just
when the authority is user information and a port. So it is there when the authority has no at
sign and does not begin with a colon. All of this holds of the endpoints of a valid flow that hold
no placeholder, since they are read as web addresses. -/
theorem Format.readUrl_names_host_unless_nothing_between (s : String) :
    (readUrl s = .ok true → ∃ p, (urlParts s.toList).IsWeb p ∧
      (p.host = [] ↔ LacksHost (urlParts s.toList).authority) ∧
      ('@' ∉ (urlParts s.toList).authority → (urlParts s.toList).authority.head? ≠ some ':' →
        p.host ≠ [])) ∧
    ∀ f : Flow, f.validated = .ok f → ∀ a ∈ f.actions, ∀ h, a.task = .http h → h.endpoint = s →
      textHasPlaceholder s = false → readUrl s = .ok true := by
  constructor
  · intro hread
    obtain ⟨p, hweb, hmissing⟩ := isWeb_of_readUrl hread
    refine ⟨p, hweb, hmissing, fun hat hcolon hnil => ?_⟩
    exact not_lacksHost hweb.authority hat hcolon (hmissing.mp hnil)
  · rintro f hf a ha h ht rfl hfixed
    have hcheck := f.validated_eq_ok_iff.mp hf .actionsComplete a ha
    obtain ⟨-, -, htask⟩ := Action.check_eq_ok_iff.mp hcheck
    obtain ⟨hendpoint, -⟩ := (Action.checkTask_http_eq_ok_iff ht).mp htask
    exact hendpoint.resolve_left (by simp [hfixed])

/-- A form is sent to an address that names its host before a port, and an address with user
information names a host in brackets. -/
theorem askingFlow_names_host :
    let endpoint := "https://example.org:80/orders"
    let f := askingFlow endpoint yesOrNo
    (f.validated = .ok f ∧ textHasPlaceholder endpoint = false ∧
      ∃ p, (Format.urlParts endpoint.toList).IsWeb p ∧ p.host ≠ []) ∧
    Format.readUrl "http://me@[::1]:80" = .ok true ∧
      ∃ p, (Format.urlParts "http://me@[::1]:80".toList).IsWeb p ∧ p.host = "::1".toList := by
  intro endpoint f
  constructor
  · have hread : Format.readUrl endpoint = .ok true := by decide +kernel
    have hvalid : f.validated = .ok f := askingFlow_validated hread yesOrNo_isSound
    have hfixed : textHasPlaceholder endpoint = false := by decide +kernel
    have hauthority : (Format.urlParts endpoint.toList).authority = "example.org:80".toList := by
      decide +kernel
    obtain ⟨hnames, hflows⟩ := Format.readUrl_names_host_unless_nothing_between endpoint
    obtain ⟨p, hp, -, hnamed⟩ := hnames (hflows f hvalid _ List.mem_cons_self _ rfl rfl hfixed)
    exact ⟨hvalid, hfixed, p, hp, hnamed (hauthority ▸ by decide) (hauthority ▸ by decide)⟩
  · have hread : Format.readUrl "http://me@[::1]:80" = .ok true := by decide +kernel
    have hauthority : (Format.urlParts "http://me@[::1]:80".toList).authority =
        "me@".toList ++ '[' :: ("::1".toList ++ ([']'] ++ ":80".toList)) := by decide +kernel
    obtain ⟨hnames, -⟩ := Format.readUrl_names_host_unless_nothing_between "http://me@[::1]:80"
    obtain ⟨p, hp, -⟩ := hnames hread
    have hsplits : (⟨"me@".toList, "::1".toList, ":80".toList⟩ : Format.AuthorityParts).Splits
        (Format.urlParts "http://me@[::1]:80".toList).authority :=
      ⟨⟨_, hauthority, by decide, .bracketed (by decide) (.inl rfl)⟩, .inr rfl, .inr rfl⟩
    exact ⟨hread, p, hp, by rw [← hp.unique _ hsplits]⟩

/-- A port by itself, and user information by itself, are read as web addresses, and a valid flow
sends its form to the first of them, although neither names a host. -/
theorem Format.readUrl_accepts_port_alone :
    let f := askingFlow "http://:80" yesOrNo
    f.validated = .ok f ∧
      (readUrl "http://:80" = .ok true ∧
        ∃ p, (urlParts "http://:80".toList).IsWeb p ∧ p.host = []) ∧
      readUrl "http://@" = .ok true ∧
        ∃ p, (urlParts "http://@".toList).IsWeb p ∧ p.host = [] := by
  intro f
  have hport : LacksHost (urlParts "http://:80".toList).authority :=
    ⟨[], ":80".toList, by decide +kernel, by decide, .inl rfl, .inr rfl⟩
  have huser : LacksHost (urlParts "http://@".toList).authority :=
    ⟨"@".toList, [], by decide +kernel, by decide, .inr rfl, .inl rfl⟩
  have hfirst : readUrl "http://:80" = .ok true := by decide +kernel
  have hsecond : readUrl "http://@" = .ok true := by decide +kernel
  obtain ⟨p, hp, hmissing⟩ := isWeb_of_readUrl hfirst
  obtain ⟨q, hq, hnone⟩ := isWeb_of_readUrl hsecond
  exact ⟨askingFlow_validated hfirst yesOrNo_isSound, ⟨hfirst, p, hp, hmissing.mpr hport⟩,
    hsecond, q, hq, hnone.mpr huser⟩

end ActionFlow
