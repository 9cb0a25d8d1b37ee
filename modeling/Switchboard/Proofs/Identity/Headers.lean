import Switchboard.Identity.Headers
import Switchboard.Proofs.FiniteMap
import Switchboard.Proofs.Text.Encoding
import Switchboard.Proofs.Text.Entries

/-! # Who a connection is, by its headers

Of several headers with one name the first counts, and letters of either case make the
same name (`Headers.Gives`).  A header can be used if all its bytes are visible ASCII
characters, spaces or tabs (`Headers.Legible`); it is a text then, since each of its bytes
is a character (`exists_text`).

The identity is that of the user, the organization and the roles that the headers say, if
all of them can be used and the user is not blank.  Else the first thing that is wrong
decides, in the order in which the headers are looked at (`Identity.ofHeaders_exact`).  Each
role is an entry of a list, so no role is empty, has blank characters around it or a comma
in it. -/
namespace Switchboard

variable {headers : Headers} {name t : String} {t? t?' : Option String} {b : Bytes}

namespace Headers

/-- The value of the first header with a name, in letters of either case. -/
def Gives (headers : Headers) (name : String) (b : Bytes) : Prop :=
  ∃ before spelled after, headers = before ++ (spelled, b) :: after ∧
    Text.lowerAscii spelled = name ∧ ∀ h ∈ before, Text.lowerAscii h.1 ≠ name

/-- What the headers say under a name: nothing if there is none of the name. -/
def Says (headers : Headers) (name : String) : Option String → Prop
  | some t => headers.Gives name (Bytes.ofText t)
  | none => ∀ h ∈ headers, Text.lowerAscii h.1 ≠ name

/-- A visible character of ASCII, a space or a tab. -/
def Readable (b : UInt8) : Prop := 0x20 ≤ b ∧ b ≤ 0x7e ∨ b = 0x09

/-- The header with a name can be read, if there is one. -/
def Legible (headers : Headers) (name : String) : Prop :=
  ∀ b, headers.Gives name b → ∀ x ∈ b, Readable x

theorem isReadable_iff (b : UInt8) : isReadable b = true ↔ Readable b := by
  have hlast : b < 0x7f ↔ b ≤ 0x7e := by
    rw [UInt8.lt_iff_toNat_lt, UInt8.le_iff_toNat_le]
    exact Nat.lt_succ_iff
  simp [isReadable, Readable, hlast]

theorem first?_eq_some_iff : headers.first? name = some b ↔ headers.Gives name b := by
  rw [first?, Option.map_eq_some_iff]
  constructor
  · rintro ⟨⟨spelled, _⟩, hfind, rfl⟩
    obtain ⟨hname, before, after, hheaders, hbefore⟩ := List.find?_eq_some_iff_append.mp hfind
    exact ⟨before, spelled, after, hheaders, by simpa using hname,
      fun h hh => by simpa using hbefore h hh⟩
  · rintro ⟨before, spelled, after, hheaders, hname, hbefore⟩
    exact ⟨(spelled, b), List.find?_eq_some_iff_append.mpr ⟨by simpa using hname, before, after,
      hheaders, fun h hh => by simpa using hbefore h hh⟩, rfl⟩

theorem says_iff : headers.Says name t? ↔ headers.first? name = t?.map Bytes.ofText := by
  cases t? with
  | none => simp [first?, Says]
  | some t => exact first?_eq_some_iff.symm

theorem legible_iff : headers.Legible name ↔
    ∀ b ∈ headers.first? name, b.all isReadable = true := by
  simp only [Legible, ← first?_eq_some_iff, List.all_eq_true, isReadable_iff]
  rfl

instance : Decidable (headers.Legible name) := decidable_of_iff' _ legible_iff

/-- What the headers say is one thing. -/
theorem Says.unique (h : headers.Says name t?) (h' : headers.Says name t?') : t? = t?' := by
  have hinjective : Function.Injective Bytes.ofText := by
    intro s t he
    rw [← Option.some.injEq, ← Bytes.text?_ofText s, he, Bytes.text?_ofText]
  exact Option.map_injective hinjective ((says_iff.mp h).symm.trans (says_iff.mp h'))

/-- Bytes that can be read are a text. -/
theorem exists_text (h : ∀ x ∈ b, Readable x) : ∃ t, b = Bytes.ofText t := by
  refine ⟨String.ofList (b.map Char.ofUInt8), ?_⟩
  rw [Bytes.ofText_ofList]
  induction b with
  | nil => rfl
  | cons x b ih =>
    have hx : x.toNat < 0x80 := by
      rcases h x List.mem_cons_self with ⟨-, hle⟩ | rfl
      · exact Nat.lt_of_le_of_lt (UInt8.le_iff_toNat_le.mp hle) (by decide)
      · decide
    have hchar : (Char.ofUInt8 x).toNat = x.toNat := UInt8.toNat_toUInt32 x
    rw [List.map_cons, Bytes.ofChars_cons, Bytes.utf8EncodeChar_ascii (by rwa [hchar]), hchar,
      UInt8.ofNat_toNat, List.singleton_append, ← ih fun y hy => h y (List.mem_cons_of_mem x hy)]

end Headers

namespace Identity

open Headers

theorem headerText?_of_legible (h : headers.Legible name) :
    ∃ t?, headerText? headers name = .ok t? ∧ headers.Says name t? := by
  unfold headerText?
  cases hfirst : headers.first? name with
  | none => exact ⟨none, rfl, says_iff.mpr hfirst⟩
  | some b =>
    obtain ⟨t, rfl⟩ := exists_text (h b (first?_eq_some_iff.mp hfirst))
    have hall : (Bytes.ofText t).all isReadable = true := legible_iff.mp h _ hfirst
    refine ⟨some t, ?_, first?_eq_some_iff.mp hfirst⟩
    show (if (Bytes.ofText t).all isReadable then _ else _) = _
    rw [if_pos hall, Bytes.text?_ofText]

theorem headerText?_of_not_legible (h : ¬ headers.Legible name) :
    headerText? headers name = .error (.invalidHeader name) := by
  rw [legible_iff] at h
  push Not at h
  obtain ⟨b, hfirst, hall⟩ := h
  rw [headerText?, Option.mem_def.mp hfirst]
  exact if_neg hall

/-- The headers say of a user that is not blank. -/
def NamesUser (headers : Headers) : Prop :=
  ∃ user, headers.Says "x-user-id" (some user) ∧ Text.trim user ≠ ""

/-- The organization that headers say, the empty name if they say none. -/
def organizationText (organization? : Option String) : String :=
  (organization?.map Text.trim).getD ""

/-- The roles that headers say, none if they say nothing of roles. -/
def roleTexts (roles? : Option String) : List String :=
  (roles?.map Text.entries).getD []

/-- What comes of headers, by the first thing that is wrong with them. -/
inductive Outcome (headers : Headers) : Except IdentityRejection Identity → Prop
  | illegibleUser (h : ¬ headers.Legible "x-user-id") :
    Outcome headers (.error (.invalidHeader "x-user-id"))
  | noUser (huser : headers.Legible "x-user-id") (h : ¬ NamesUser headers) :
    Outcome headers (.error .missingUser)
  | illegibleOrganization (huser : headers.Legible "x-user-id") (hnamed : NamesUser headers)
    (h : ¬ headers.Legible "x-organization-id") :
    Outcome headers (.error (.invalidHeader "x-organization-id"))
  | illegibleRoles (huser : headers.Legible "x-user-id") (hnamed : NamesUser headers)
    (horganization : headers.Legible "x-organization-id") (h : ¬ headers.Legible "x-user-roles") :
    Outcome headers (.error (.invalidHeader "x-user-roles"))
  | identity {user : String} {organization? roles? : Option String}
    (huser : headers.Legible "x-user-id") (horganization : headers.Legible "x-organization-id")
    (hroles : headers.Legible "x-user-roles") (hne : Text.trim user ≠ "")
    (hsaysUser : headers.Says "x-user-id" (some user))
    (hsaysOrganization : headers.Says "x-organization-id" organization?)
    (hsaysRoles : headers.Says "x-user-roles" roles?) :
    Outcome headers (.ok
      (ofParts (Text.trim user) (organizationText organization?) (roleTexts roles?)))

/-- A user that is blank is refused; with any other, the rest decides. -/
theorem ofHeaders_of_user {user : String}
    (htext : headerText? headers "x-user-id" = .ok (some user)) :
    ofHeaders headers = if Text.trim user = "" then .error .missingUser else do
      let organization ← headerText? headers "x-organization-id"
      let roles ← headerText? headers "x-user-roles"
      return ofParts (Text.trim user) (organizationText organization) (roleTexts roles) := by
  rw [ofHeaders, htext]
  simp only [bind, Except.bind, Option.map_some, String.isEmpty_iff]
  rfl

/-- **The first thing that is wrong decides.** -/
theorem outcome (headers : Headers) : Outcome headers (ofHeaders headers) := by
  by_cases huser : headers.Legible "x-user-id"
  swap
  · have htext := headerText?_of_not_legible huser
    rw [ofHeaders, htext]
    exact .illegibleUser huser
  obtain ⟨user?, htext, hsaysUser⟩ := headerText?_of_legible huser
  by_cases hnamed : NamesUser headers
  swap
  · suffices h : ofHeaders headers = .error .missingUser by
      rw [h]
      exact .noUser huser hnamed
    cases user? with
    | none =>
      rw [ofHeaders, htext]
      rfl
    | some user =>
      rw [ofHeaders_of_user htext, if_pos]
      by_contra hne
      exact hnamed ⟨user, hsaysUser, hne⟩
  obtain ⟨user, hsays, hne⟩ := hnamed
  obtain rfl := hsaysUser.unique hsays
  rw [ofHeaders_of_user htext, if_neg hne]
  by_cases horganization : headers.Legible "x-organization-id"
  swap
  · rw [headerText?_of_not_legible horganization]
    exact .illegibleOrganization huser ⟨user, hsays, hne⟩ horganization
  obtain ⟨organization?, htextOrganization, hsaysOrganization⟩ :=
    headerText?_of_legible horganization
  rw [htextOrganization]
  by_cases hroles : headers.Legible "x-user-roles"
  swap
  · rw [headerText?_of_not_legible hroles]
    exact .illegibleRoles huser ⟨user, hsays, hne⟩ horganization hroles
  obtain ⟨roles?, htextRoles, hsaysRoles⟩ := headerText?_of_legible hroles
  rw [htextRoles]
  exact .identity huser horganization hroles hne hsays hsaysOrganization hsaysRoles

theorem mem_roles_ofParts {user organization : String} {roles : List String} {role : Role} :
    role ∈ (ofParts user organization roles).roles ↔ role.text ∈ roles := by
  rw [ofParts, NameSet.mem_ofNames, List.mem_map]
  constructor
  · rintro ⟨text, htext, rfl⟩
    exact htext
  · exact fun h => ⟨role.text, h, rfl⟩

/-- A role that headers say is an entry of a list. -/
theorem isEntry_of_mem_roleTexts {roles? : Option String} (h : t ∈ roleTexts roles?) :
    Text.IsEntry t := by
  cases roles? with
  | none => cases h
  | some list => exact (Text.mem_entries_iff.mp h).1

/-- **Who a connection is, by its headers.**  There is an identity exactly if the headers
name a user that is not blank, and each of the three that is there can be read.  Then user
and organization are what the headers say, trimmed, and the roles are the entries of the
list that they say; so no role is empty, has a blank character at an end or has a comma.
Else the refusal says of the first fault in the order of the headers. -/
theorem ofHeaders_exact (headers : Headers) :
    ((∃ i, ofHeaders headers = .ok i) ↔
      headers.Legible "x-user-id" ∧ NamesUser headers ∧
      headers.Legible "x-organization-id" ∧ headers.Legible "x-user-roles") ∧
    (∀ i, ofHeaders headers = .ok i → ∃ user organization? roles?,
      headers.Says "x-user-id" (some user) ∧ i.user.text = Text.trim user ∧
      headers.Says "x-organization-id" organization? ∧
      i.organization.text = organizationText organization? ∧
      headers.Says "x-user-roles" roles? ∧
      (∀ role, role ∈ i.roles ↔ role.text ∈ roleTexts roles?) ∧
      ∀ role ∈ i.roles, Text.IsEntry role.text) ∧
    ∀ e, ofHeaders headers = .error e ↔
      (¬ headers.Legible "x-user-id" ∧ e = .invalidHeader "x-user-id") ∨
      (headers.Legible "x-user-id" ∧ ¬ NamesUser headers ∧ e = .missingUser) ∨
      (headers.Legible "x-user-id" ∧ NamesUser headers ∧
        ¬ headers.Legible "x-organization-id" ∧ e = .invalidHeader "x-organization-id") ∨
      (headers.Legible "x-user-id" ∧ NamesUser headers ∧ headers.Legible "x-organization-id" ∧
        ¬ headers.Legible "x-user-roles" ∧ e = .invalidHeader "x-user-roles") := by
  have houtcome := outcome headers
  generalize ofHeaders headers = result at houtcome
  cases houtcome with
  | illegibleUser h => simp [h, eq_comm]
  | noUser huser h => simp [huser, h, eq_comm]
  | illegibleOrganization huser hnamed h => simp [huser, hnamed, h, eq_comm]
  | illegibleRoles huser hnamed horganization h => simp [huser, hnamed, horganization, h, eq_comm]
  | @identity user organization? roles? huser horganization hroles hne hsays hsaysOrganization
      hsaysRoles =>
    have hnamed : NamesUser headers := ⟨user, hsays, hne⟩
    refine ⟨by simp [huser, hnamed, horganization, hroles], fun i hi => ?_,
      by simp [huser, hnamed, horganization, hroles]⟩
    obtain rfl := Except.ok.inj hi
    exact ⟨user, organization?, roles?, hsays, rfl, hsaysOrganization, rfl, hsaysRoles,
      fun role => mem_roles_ofParts,
      fun role hrole => isEntry_of_mem_roleTexts (mem_roles_ofParts.mp hrole)⟩

/-- A name in other letters, a value that does not count, blank entries and a role that is
said twice; and a user that is blank before an organization that cannot be read. -/
theorem ofHeaders_exact_respelled :
    let headers : Headers := [("X-User-Id", Bytes.ofText " u1\t"), ("x-user-id", [0xff]),
      ("X-USER-ROLES", Bytes.ofText "ops, a b,,\t,ops ")]
    let blank : Headers := [("x-organization-id", [0xe2, 0x82, 0xac]),
      ("x-user-id", Bytes.ofText "  ")]
    (∃ i, ofHeaders headers = .ok i ∧ i.user.text = "u1" ∧ i.organization.text = "" ∧
      ∀ role, role ∈ i.roles ↔ role.text = "ops" ∨ role.text = "a b") ∧
    ofHeaders blank = .error .missingUser := by
  intro headers blank
  have hsays : headers.Says "x-user-id" (some " u1\t") := says_iff.mpr (by decide +kernel)
  have hsaysOrganization : headers.Says "x-organization-id" none :=
    says_iff.mpr (by decide +kernel)
  have hsaysRoles : headers.Says "x-user-roles" (some "ops, a b,,\t,ops ") :=
    says_iff.mpr (by decide +kernel)
  have hblank : blank.Says "x-user-id" (some "  ") := says_iff.mpr (by decide +kernel)
  obtain ⟨hexists, hvalues, -⟩ := ofHeaders_exact headers
  obtain ⟨i, hi⟩ := hexists.mpr
    ⟨by decide +kernel, ⟨_, hsays, by decide +kernel⟩, by decide +kernel, by decide +kernel⟩
  obtain ⟨user, organization?, roles?, huser, htext, horganization, htext', hroles, hmem, -⟩ :=
    hvalues i hi
  cases huser.unique hsays
  cases horganization.unique hsaysOrganization
  cases hroles.unique hsaysRoles
  refine ⟨⟨i, hi, htext.trans (by decide +kernel), htext', fun role => ?_⟩, ?_⟩
  · have hentries : roleTexts (some "ops, a b,,\t,ops ") = ["ops", "a b", "ops"] := by
      decide +kernel
    rw [hmem role, hentries]
    simp only [List.mem_cons, List.not_mem_nil, or_false]
    tauto
  · refine ((ofHeaders_exact blank).2.2 _).mpr (Or.inr (Or.inl ⟨by decide +kernel, ?_, rfl⟩))
    rintro ⟨user, huser, hne⟩
    cases huser.unique hblank
    exact hne (by decide +kernel)

end Identity
end Switchboard
