import AxumConf.Auth.Proxy

/-!
# Whom the proxy headers identify

The identity of a trusted request, by the headers that the configuration names.  Of the headers with
a single value only that of the user is taken when it is empty.
-/

namespace AxumConf.Auth

/-- The parts of a text between its commas. -/
structure Pieces (text : String) (pieces : List (List Char)) : Prop where
  nonempty : pieces ≠ []
  comma_free : ∀ piece ∈ pieces, ',' ∉ piece
  joined : [','].intercalate pieces = text.toList

section Headers

variable (external : External) (headers : Headers)

/-- The items of a header, trimmed and without the empty ones; a missing and an unreadable header
have none. -/
def HasItems (name : String) (items : List String) : Prop :=
  (external.headerText headers name = none ∧ items = []) ∨
    ∃ text pieces, external.headerText headers name = some text ∧ Pieces text pieces ∧
      items = (pieces.map fun piece => Text.trim (String.ofList piece)).filter (· ≠ "")

end Headers

section Attached

variable (external : External) (config : HttpProxyOidcConfig) (isProduction : Bool)
  (head : RequestHead)

/-- Every request with this head is passed on with this identity, whatever it had before. -/
def AttachesIdentity (identity : AuthenticatedIdentity) : Prop :=
  ∀ request, request.head = head →
    (proxyOidc external config isProduction).inbound request =
      .ok { request with identity := some identity }

/-- An identity is attached if and only if the user header names someone, with the groups and the
roles of their headers. -/
structure IdentifiesNamed : Prop where
  attaches_iff : (∃ identity, AttachesIdentity external config isProduction head identity) ↔
    ∃ user, external.headerText head.headers config.userHeader = some user ∧ user ≠ ""
  hasItems : ∀ identity, AttachesIdentity external config isProduction head identity →
    HasItems external head.headers config.groupsHeader identity.groups ∧
      HasItems external head.headers config.rolesHeader identity.roles

end Attached

variable {external : External} {config : HttpProxyOidcConfig} {isProduction : Bool}
  {head : RequestHead}

theorem pieces_splitOn (text : String) : Pieces text (text.toList.splitOn ',') where
  nonempty := List.splitOn_ne_nil ',' text.toList
  comma_free := fun _ isPiece => Text.not_mem_of_mem_splitOn isPiece
  joined := List.intercalate_splitOn ','

theorem hasItems_listHeader (headers : Headers) (name : String) :
    HasItems external headers name (listHeader external headers name) := by
  cases readable : external.headerText headers name with
  | none => exact .inl ⟨readable, by simp [listHeader, readable]⟩
  | some text =>
      refine .inr ⟨text, _, readable, pieces_splitOn text, ?_⟩
      have nonEmpty : ∀ entry : String, (!entry.isEmpty) = decide (entry ≠ "") := by
        intro entry
        cases empty : entry.isEmpty with
        | true => simp [String.isEmpty_iff.mp empty]
        | false => simp [String.isEmpty_eq_false_iff.mp empty]
      simp only [listHeader, readable, Option.map_some, Option.getD_some, Text.split, List.map_map,
        Function.comp_def, nonEmpty]

theorem attachesIdentity_iff {identity : AuthenticatedIdentity}
    (trusted : isTrustedSource external config isProduction head.peerIp head.headers = true) :
    AttachesIdentity external config isProduction head identity ↔
      extractIdentity external config head.headers = some identity := by
  constructor
  · intro attaches
    have passed := attaches { head } rfl
    simp only [proxyOidc, proxyOidcMiddleware, trusted, if_true] at passed
    cases extracted : extractIdentity external config head.headers with
    | none => simp [extracted] at passed
    | some found => simpa [extracted] using passed
  · rintro extracted request rfl
    simp [proxyOidc, proxyOidcMiddleware, trusted, extracted]

/-- A trusted request is given the identity that its headers name exactly when its user header is
not empty. -/
theorem identifiesNamed_iff
    (trusted : isTrustedSource external config isProduction head.peerIp head.headers = true) :
    IdentifiesNamed external config isProduction head ↔
      external.headerText head.headers config.userHeader ≠ some "" := by
  constructor
  · intro identifies isEmpty
    have attached := identifies.attaches_iff.mp
      ⟨_, (attachesIdentity_iff trusted).mpr (by rw [extractIdentity, isEmpty, Option.map_some])⟩
    rcases attached with ⟨user, isUser, notEmpty⟩
    rw [isEmpty, Option.some.injEq] at isUser
    exact notEmpty isUser.symm
  · intro notEmpty
    constructor
    · simp only [attachesIdentity_iff trusted, extractIdentity]
      cases named : external.headerText head.headers config.userHeader with
      | none => simp
      | some user =>
          have isName : user ≠ "" := by
            rintro rfl
            exact notEmpty named
          simp [isName]
    · intro identity attaches
      have extracted := (attachesIdentity_iff trusted).mp attaches
      rcases Option.map_eq_some_iff.mp extracted with ⟨user, -, rfl⟩
      exact ⟨hasItems_listHeader _ _, hasItems_listHeader _ _⟩

def userHeaderRequest (user : String) : RequestHead where
  path := "/"
  pathAndQuery := some "/"
  headers := fun name =>
    if name = "X-Auth-Request-User" then some (HeaderValue.ofText user) else none
  peerIp := none

theorem ann_identifiesNamed :
    IdentifiesNamed External.visible {} false (userHeaderRequest "ann") :=
  (identifiesNamed_iff (by decide +kernel)).mpr (by decide +kernel)

/-- An empty user header authenticates as the user without a name. -/
theorem emptyUser_attached :
    isTrustedSource External.visible {} false (userHeaderRequest "").peerIp
        (userHeaderRequest "").headers = true ∧
      (∃ identity, AttachesIdentity External.visible {} false (userHeaderRequest "") identity ∧
        identity.user = "") ∧
      ¬IdentifiesNamed External.visible {} false (userHeaderRequest "") := by
  have trusted : isTrustedSource External.visible {} false (userHeaderRequest "").peerIp
      (userHeaderRequest "").headers = true := by decide +kernel
  have isEmpty : External.visible.headerText (userHeaderRequest "").headers "X-Auth-Request-User" =
      some "" := by decide +kernel
  have attaches : ∃ identity,
      AttachesIdentity External.visible {} false (userHeaderRequest "") identity ∧
        identity.user = "" := by
    refine ⟨_, (attachesIdentity_iff trusted).mpr rfl, ?_⟩
    decide +kernel
  refine ⟨trusted, attaches, ?_⟩
  intro identifies
  rcases attaches with ⟨identity, attached, -⟩
  rcases identifies.attaches_iff.mp ⟨identity, attached⟩ with ⟨user, isUser, notEmpty⟩
  exact notEmpty (Option.some.inj (isUser.symm.trans isEmpty))

end AxumConf.Auth
