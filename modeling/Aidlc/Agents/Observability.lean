import Aidlc.Agents.Source
import Aidlc.Foundation.Replacement

/-! # Model diagnostics

What a model returned is written to a log after the configured secrets have been
taken out of it. Texts are searched for the secrets and for what looks like a
credential; the values of some keys are withheld whole. The keys themselves are
copied as they are.
-/

namespace Aidlc

open Foundation

/-- What the language knows of characters beyond the basic ones: which are part of a
word, and the lower case of a text. -/
structure CharacterData where
  isAlnum : Char → Bool
  lower : String → String
  lower_basic : ∀ text : String, (∀ c ∈ text.toList, c.toNat < 128) →
    lower text = String.ofList (text.toList.map Char.toLower)

/-- A value as the code that records it hands it over. A model stands for its dump, any
other object for its text, and a key for its text. -/
inductive Diagnostic (Scalar : Type) where
  | model (dump : Diagnostic Scalar)
  | dict (items : List (String × Diagnostic Scalar))
  | list (items : List (Diagnostic Scalar))
  | str (text : String)
  /-- `None`, or a number. -/
  | scalar (value : Scalar)
  | other (text : String)

/-- `SECRET_KEYS` -/
def secretKeys : List String :=
  ["authorization", "api_key", "apikey", "password", "secret", "access_token", "refresh_token",
    "id_token", "client_secret", "encrypted_content", "headers"]

def redacted : String := "[redacted]"

namespace Observability

/-- `text.replace(old, new)` -/
def replaceAll (old new text : List Char) : List Char :=
  if old = [] then new ++ text.flatMap fun c => c :: new
  else substitute (fun _ rest => if old.isPrefixOf rest then old.length else 0) new 0 none text

/-- A letter where case is ignored; two of them have one more form. -/
def isLetter (letter c : Char) : Bool :=
  c.toLower == letter || (letter == 's' && c == '\u017f') || (letter == 'k' && c == '\u212a')

/-- `[A-Za-z0-9]` where case is ignored. -/
def isBasicAlnum (c : Char) : Bool :=
  c.isAlphanum || c ∈ ['\u0130', '\u0131', '\u017f', '\u212a']

/-- The length of a word at the start of a text, where case is ignored. -/
def wordLength (word : String) (text : List Char) : Option Nat :=
  if (List.zipWith isLetter word.toList text).all id ∧ word.length ≤ text.length then
    some word.length
  else none

/-- `Bearer\s+[A-Za-z0-9._~+/=-]+` -/
def bearerLength (text : List Char) : Nat :=
  match wordLength "bearer" text with
  | none => 0
  | some length =>
    let spaces := (text.drop length).takeWhile fun c => c ∈ whitespace
    let token := ((text.drop length).dropWhile fun c => c ∈ whitespace).takeWhile fun c =>
      isBasicAlnum c || c ∈ ['.', '_', '~', '+', '/', '=', '-']
    if spaces = [] ∨ token = [] then 0 else length + spaces.length + token.length

/-- `\bsk-[A-Za-z0-9_-]+`; the first letter is part of a word, so only what stands before
it decides on the boundary. -/
def keyLength (characters : CharacterData) (before : Option Char) (text : List Char) : Nat :=
  if before.any fun c => characters.isAlnum c || c == '_' then 0
  else
    match wordLength "sk-" text with
    | none => 0
    | some length =>
      let token := (text.drop length).takeWhile fun c => isBasicAlnum c || c == '_' || c == '-'
      if token = [] then 0 else length + token.length

/-- What the pattern of `_redact` matches at a place. -/
def credentialLength (characters : CharacterData) (before : Option Char) (text : List Char) : Nat :=
  if bearerLength text = 0 then keyLength characters before text else bearerLength text

/-- What becomes of a text. -/
def redactText (characters : CharacterData) (secrets : List String) (text : String) : String :=
  let replaced := secrets.foldl
    (fun text secret => replaceAll secret.toList redacted.toList text) text.toList
  String.ofList (substitute (credentialLength characters) redacted.toList 0 none replaced)

/-- `entries[key] = value`: a repeated key keeps its place and takes the new value. -/
def assign {α : Type} (entries : List (String × α)) (item : String × α) : List (String × α) :=
  if entries.any fun entry => entry.1 == item.1 then
    entries.map fun entry => if entry.1 = item.1 then item else entry
  else entries ++ [item]

/-- `{key: value for key, value in items}` -/
def dictOf {α : Type} (items : List (String × α)) : List (String × α) := items.foldl assign []

variable {Scalar : Type} (characters : CharacterData) (secrets : List String)

/-- `str(key).lower() in SECRET_KEYS` -/
def isSecretKey (key : String) : Bool := secretKeys.any fun name => name == characters.lower key

mutual

/-- `_redact` -/
def redact : Diagnostic Scalar → Diagnostic Scalar
  | .model dump => redact dump
  | .dict items => .dict (dictOf (redactItems items))
  | .list items => .list (redactList items)
  | .str text => .str (redactText characters secrets text)
  | .scalar value => .scalar value
  | .other text => .str (redactText characters secrets text)
termination_by structural value => value

def redactItem : String × Diagnostic Scalar → String × Diagnostic Scalar
  | (key, item) => (key, if isSecretKey characters key then .str redacted else redact item)
termination_by structural item => item

def redactItems : List (String × Diagnostic Scalar) → List (String × Diagnostic Scalar)
  | [] => []
  | item :: rest => redactItem item :: redactItems rest
termination_by structural items => items

def redactList : List (Diagnostic Scalar) → List (Diagnostic Scalar)
  | [] => []
  | item :: rest => redact item :: redactList rest
termination_by structural items => items

end

mutual

/-- Every text in a value, the keys of its mappings among them. -/
def texts : Diagnostic Scalar → List String
  | .model dump => texts dump
  | .dict items => textsItems items
  | .list items => textsList items
  | .str text => [text]
  | .scalar _ => []
  | .other text => [text]
termination_by structural value => value

def textsItem : String × Diagnostic Scalar → List String
  | (key, item) => key :: texts item
termination_by structural item => item

def textsItems : List (String × Diagnostic Scalar) → List String
  | [] => []
  | item :: rest => textsItem item ++ textsItems rest
termination_by structural items => items

def textsList : List (Diagnostic Scalar) → List String
  | [] => []
  | item :: rest => texts item ++ textsList rest
termination_by structural items => items

end

/-- The texts differ in the case of basic letters only. -/
def SameLetters (first second : String) : Prop :=
  first.toList.map Char.toLower = second.toList.map Char.toLower

/-- A key named in `SECRET_KEYS`, in any letter case. -/
def NamesSecret (key : String) : Prop :=
  characters.lower key ∈ secretKeys ∨ ∃ name ∈ secretKeys, SameLetters key name

mutual

/-- Nothing but the marker is stored under a key that names a secret. -/
def Withheld : Diagnostic Scalar → Prop
  | .model dump => Withheld dump
  | .dict items => WithheldItems items
  | .list items => WithheldList items
  | .str _ | .scalar _ | .other _ => True
termination_by structural value => value

def WithheldItem : String × Diagnostic Scalar → Prop
  | (key, item) => (NamesSecret characters key → item = .str redacted) ∧ Withheld item
termination_by structural item => item

def WithheldItems : List (String × Diagnostic Scalar) → Prop
  | [] => True
  | item :: rest => WithheldItem item ∧ WithheldItems rest
termination_by structural items => items

def WithheldList : List (Diagnostic Scalar) → Prop
  | [] => True
  | item :: rest => Withheld item ∧ WithheldList rest
termination_by structural items => items

end

mutual

/-- The keys of the mappings in a value, at any depth, but for what is below a key that
names a secret and for what a later item of the same key takes the place of. -/
def visibleKeys : Diagnostic Scalar → List String
  | .model dump => visibleKeys dump
  | .dict items => (dictOf (visibleItems items)).flatMap fun item => item.1 :: item.2
  | .list items => visibleList items
  | .str _ | .scalar _ | .other _ => []
termination_by structural value => value

def visibleItem : String × Diagnostic Scalar → String × List String
  | (key, item) => (key, if isSecretKey characters key then [] else visibleKeys item)
termination_by structural item => item

def visibleItems : List (String × Diagnostic Scalar) → List (String × List String)
  | [] => []
  | item :: rest => visibleItem item :: visibleItems rest
termination_by structural items => items

def visibleList : List (Diagnostic Scalar) → List String
  | [] => []
  | item :: rest => visibleKeys item ++ visibleList rest
termination_by structural items => items

end

/-! ## Texts without secrets -/

/-- A secret the log is to hide: long enough, and nothing the marker could be a part of. -/
structure Hidden (secret : String) : Prop where
  length : 8 ≤ secret.length
  apart : overlaps secret.toList redacted.toList = false

/-- The text does not contain the secret. -/
def Free (secret text : String) : Prop := ¬ secret.toList <:+: text.toList

instance (secret text : String) : Decidable (Free secret text) :=
  inferInstanceAs (Decidable (¬ _ <:+: _))

variable {characters secrets} {secret : String}

theorem Hidden.nonempty (hsecret : Hidden secret) : secret.toList ≠ [] := by
  intro hempty
  have hlength := hsecret.length
  rw [← String.length_toList, hempty] at hlength
  cases hlength

/-- Replacing all occurrences is such a replacement. -/
theorem replaces_replaceAll {old : List Char} (hold : old ≠ []) (new text : List Char) :
    Replaces new text (replaceAll old new text) := by
  rw [replaceAll, if_neg hold]
  exact replaces_substitute _ new 0 none text

/-- After it the secret is gone from the text. -/
theorem not_infix_replaceAll (hsecret : Hidden secret) (text : List Char) :
    ¬ secret.toList <:+: replaceAll secret.toList redacted.toList text := by
  rw [replaceAll, if_neg hsecret.nonempty]
  apply not_infix_substitute hsecret.nonempty hsecret.apart
  intro before rest hstart
  rw [if_pos (List.isPrefixOf_iff_prefix.mpr hstart)]
  exact fun hlength => hsecret.nonempty (List.eq_nil_of_length_eq_zero hlength)

/-- The secrets are taken out one after another, and none of the markers brings one back. -/
theorem infix_of_replaceAll (hsecrets : ∀ secret ∈ secrets, Hidden secret) {text : List Char}
    (hsecret : Hidden secret) (hoccurs : secret.toList <:+: secrets.foldl
      (fun text secret => replaceAll secret.toList redacted.toList text) text) :
    secret.toList <:+: text ∧ secret ∉ secrets := by
  induction secrets generalizing text with
  | nil => exact ⟨hoccurs, List.not_mem_nil⟩
  | cons first rest ih =>
      have hfirst := hsecrets first List.mem_cons_self
      obtain ⟨hreplaced, hrest⟩ := ih (fun other hother =>
        hsecrets other (List.mem_cons_of_mem _ hother)) hoccurs
      refine ⟨infix_of_replaces (replaces_replaceAll hfirst.nonempty _ text) hsecret.apart
        hreplaced, ?_⟩
      rw [List.mem_cons, not_or]
      refine ⟨?_, hrest⟩
      rintro rfl
      exact not_infix_replaceAll hfirst text hreplaced

/-- A redacted text is free of every secret. -/
theorem free_redactText (hsecrets : ∀ secret ∈ secrets, Hidden secret) (hmem : secret ∈ secrets)
    (text : String) : Free secret (redactText characters secrets text) := by
  intro hoccurs
  rw [redactText, String.toList_ofList] at hoccurs
  have hreplaced := infix_of_replaces (replaces_substitute _ _ 0 none _) (hsecrets secret hmem).apart
    hoccurs
  exact (infix_of_replaceAll hsecrets (hsecrets secret hmem) hreplaced).2 hmem

/-- The replacement itself is free of every secret. -/
theorem free_redacted (hsecret : Hidden secret) : Free secret redacted := by
  intro hoccurs
  obtain ⟨-, hmarker⟩ := Bool.or_eq_false_iff.mp hsecret.apart
  have hnothing := infix_of_marker_tail hmarker (List.suffix_refl _)
    (hoccurs.trans (List.prefix_append _ []).isInfix)
  exact hsecret.nonempty (List.infix_nil.mp hnothing)

/-! ## Mappings -/

section Mappings

variable {α β : Type}

/-- Assigning an entry commutes with a map over the values. -/
theorem assign_map (f : α → β) (entries : List (String × α)) (item : String × α) :
    (assign entries item).map (Prod.map id f) =
      assign (entries.map (Prod.map id f)) (Prod.map id f item) := by
  unfold assign
  rw [List.any_map]
  change _ = if entries.any (fun entry => entry.1 == item.1) = true then _ else _
  split
  next =>
    rw [List.map_map, List.map_map]
    apply List.map_congr_left
    intro entry _
    by_cases hkey : entry.1 = item.1 <;> simp [hkey]
  next => simp

theorem dictOf_map (f : α → β) (items : List (String × α)) :
    dictOf (items.map (Prod.map id f)) = (dictOf items).map (Prod.map id f) := by
  have hloop : ∀ entries : List (String × α),
      (items.map (Prod.map id f)).foldl assign (entries.map (Prod.map id f)) =
        (items.foldl assign entries).map (Prod.map id f) := by
    induction items with
    | nil => exact fun _ => rfl
    | cons item rest ih =>
        intro entries
        rw [List.map_cons, List.foldl_cons, List.foldl_cons, ← assign_map, ih]
  exact hloop []

theorem mem_of_mem_assign {entries : List (String × α)} {item entry : String × α}
    (hentry : entry ∈ assign entries item) : entry ∈ entries ∨ entry = item := by
  unfold assign at hentry
  split at hentry
  next =>
    obtain ⟨other, hother, rfl⟩ := List.mem_map.mp hentry
    split
    · exact .inr rfl
    · exact .inl hother
  next => simpa using hentry

/-- A mapping holds nothing but the items it is made of. -/
theorem mem_of_mem_dictOf {items : List (String × α)} {entry : String × α}
    (hentry : entry ∈ dictOf items) : entry ∈ items := by
  have hloop : ∀ entries : List (String × α), entry ∈ items.foldl assign entries →
      entry ∈ entries ∨ entry ∈ items := by
    clear hentry
    induction items with
    | nil => exact fun entries hmem => .inl hmem
    | cons item rest ih =>
        intro entries hmem
        rcases ih _ hmem with hassigned | hrest
        · rcases mem_of_mem_assign hassigned with hold | rfl
          · exact .inl hold
          · exact .inr List.mem_cons_self
        · exact .inr (List.mem_cons_of_mem _ hrest)
  exact (hloop [] hentry).resolve_left List.not_mem_nil

end Mappings

/-! ## Keys that name a secret -/

/-- The secret keys are in lower case and ASCII. -/
theorem lower_secretKeys : ∀ name ∈ secretKeys, name.toList.map Char.toLower = name.toList ∧
    ∀ c ∈ name.toList, c.toNat < 128 := by
  have hall : secretKeys.all (fun name => name.toList.map Char.toLower == name.toList &&
      name.toList.all fun c => decide (c.toNat < 128)) = true := by decide +kernel
  intro name hname
  have hname := List.all_eq_true.mp hall name hname
  simpa using hname

theorem lt_of_toLower {c : Char} (hlower : c.toLower.toNat < 128) : c.toNat < 128 := by
  unfold Char.toLower at hlower
  split at hlower
  next hupper =>
    have hle : c.toNat ≤ 90 := by simpa [UInt32.le_iff_toNat_le] using hupper.2
    omega
  next => exact hlower

/-- A key that names a secret is recognised. -/
theorem isSecretKey_of_namesSecret {key : String} (hkey : NamesSecret characters key) :
    isSecretKey characters key = true := by
  rcases hkey with hlower | ⟨name, hname, hletters⟩
  · simpa [isSecretKey] using hlower
  · obtain ⟨hsame, hbasic⟩ := lower_secretKeys name hname
    rw [SameLetters, hsame] at hletters
    have hcharacters : ∀ c ∈ key.toList, c.toNat < 128 := by
      intro c hc
      apply lt_of_toLower
      apply hbasic
      rw [← hletters]
      exact List.mem_map_of_mem hc
    rw [isSecretKey, List.any_eq_true]
    refine ⟨name, hname, ?_⟩
    rw [characters.lower_basic key hcharacters, hletters, String.ofList_toList, beq_self_eq_true]

/-! ## What a redacted value shows -/

/-- What is shown for a value, with the keys that are visible in it. -/
structure Shows (characters : CharacterData) (secrets : List String) (shown : Diagnostic Scalar)
    (keys : List String) : Prop where
  covered : ∀ text ∈ texts shown, text ∈ keys ∨ ∀ secret ∈ secrets, Free secret text
  visible : ∀ key ∈ keys, key ∈ texts shown
  withheld : Withheld characters shown

/-- What is shown for an item of a mapping. -/
def ShowsItem (characters : CharacterData) (secrets : List String)
    (entry : String × Diagnostic Scalar × List String) : Prop :=
  (NamesSecret characters entry.1 → entry.2.1 = .str redacted) ∧
    Shows characters secrets entry.2.1 entry.2.2

/-- A text free of secrets shows none. -/
theorem shows_text {text : String} (hfree : ∀ secret ∈ secrets, Free secret text) :
    Shows characters secrets (.str text : Diagnostic Scalar) [] where
  covered other hother := by
    rw [texts, List.mem_singleton] at hother
    rw [hother]
    exact .inr hfree
  visible := by simp
  withheld := trivial

/-- A mapping shows its keys and what its items show. -/
theorem shows_dict {entries : List (String × Diagnostic Scalar × List String)}
    (hentries : ∀ entry ∈ entries, ShowsItem characters secrets entry) :
    Shows characters secrets (.dict (entries.map (Prod.map id Prod.fst)))
      ((entries.map (Prod.map id Prod.snd)).flatMap fun item => item.1 :: item.2) := by
  induction entries with
  | nil => exact ⟨by simp [texts, textsItems], by simp, trivial⟩
  | cons entry rest ih =>
      obtain ⟨key, shown, keys⟩ := entry
      obtain ⟨hnamed, hshown⟩ := hentries _ List.mem_cons_self
      have hrest := ih fun other hother => hentries other (List.mem_cons_of_mem _ hother)
      constructor
      · intro text htext
        simp only [List.map_cons, Prod.map_apply, id_eq, texts, textsItems, textsItem,
          List.mem_append, List.mem_cons] at htext
        rcases htext with (rfl | hitem) | htail
        · exact .inl (by simp)
        · exact (hshown.covered text hitem).imp_left fun hkey => by simp [hkey]
        · apply (hrest.covered text htail).imp_left
          intro hkey
          rw [List.map_cons, List.flatMap_cons]
          exact List.mem_append_right _ hkey
      · intro name hname
        rw [List.map_cons, List.flatMap_cons, List.mem_append] at hname
        simp only [List.map_cons, Prod.map_apply, id_eq, texts, textsItems, textsItem,
          List.mem_append, List.mem_cons]
        rcases hname with hitem | htail
        · rcases List.mem_cons.mp hitem with rfl | hbelow
          · exact .inl (.inl rfl)
          · exact .inl (.inr (hshown.visible name hbelow))
        · exact .inr (hrest.visible name htail)
      · exact ⟨⟨hnamed, hshown.withheld⟩, hrest.withheld⟩

/-- A list shows what its items show. -/
theorem shows_append {items : List (Diagnostic Scalar)} {item : Diagnostic Scalar}
    {keys below : List String} (hitem : Shows characters secrets item keys)
    (hrest : Shows characters secrets (.list items) below) :
    Shows characters secrets (.list (item :: items)) (keys ++ below) := by
  constructor
  · intro text htext
    rw [texts, textsList, List.mem_append] at htext
    rcases htext with hhead | htail
    · exact (hitem.covered text hhead).imp_left (List.mem_append_left _)
    · exact (hrest.covered text htail).imp_left (List.mem_append_right _)
  · intro key hkey
    rw [texts, textsList, List.mem_append]
    exact (List.mem_append.mp hkey).imp (hitem.visible key) (hrest.visible key)
  · exact ⟨hitem.withheld, hrest.withheld⟩

mutual

/-- What is shown of a value are the visible keys, and texts without secrets. -/
theorem shows_redact (hsecrets : ∀ secret ∈ secrets, Hidden secret) : ∀ value : Diagnostic Scalar,
    Shows characters secrets (redact characters secrets value) (visibleKeys characters value)
  | .model dump => shows_redact hsecrets dump
  | .dict items => by
    obtain ⟨entries, hshown, hkeys, hentries⟩ := shows_redactItems hsecrets items
    rw [redact, visibleKeys, hshown, hkeys, dictOf_map, dictOf_map]
    apply shows_dict
    intro entry hentry
    exact hentries entry (mem_of_mem_dictOf hentry)
  | .list items => shows_redactList hsecrets items
  | .str text => shows_text fun _ hsecret => free_redactText hsecrets hsecret text
  | .scalar _ => ⟨by simp [redact, texts], by simp [visibleKeys], trivial⟩
  | .other text => shows_text fun _ hsecret => free_redactText hsecrets hsecret text
termination_by structural value => value

theorem shows_redactItem (hsecrets : ∀ secret ∈ secrets, Hidden secret) :
    ∀ item : String × Diagnostic Scalar,
    ∃ entry : String × Diagnostic Scalar × List String,
      redactItem characters secrets item = Prod.map id Prod.fst entry ∧
        visibleItem characters item = Prod.map id Prod.snd entry ∧
          ShowsItem characters secrets entry
  | (key, item) => by
    have hshows := shows_redact hsecrets item
    by_cases hkey : isSecretKey characters key = true
    · refine ⟨(key, .str redacted, []), by simp [redactItem, hkey], by simp [visibleItem, hkey],
        fun _ => rfl, shows_text fun secret hsecret => free_redacted (hsecrets secret hsecret)⟩
    · refine ⟨(key, redact characters secrets item, visibleKeys characters item),
        by simp [redactItem, hkey], by simp [visibleItem, hkey], fun hnamed => ?_, hshows⟩
      exact absurd (isSecretKey_of_namesSecret hnamed) hkey
termination_by structural item => item

theorem shows_redactItems (hsecrets : ∀ secret ∈ secrets, Hidden secret) :
    ∀ items : List (String × Diagnostic Scalar),
    ∃ entries : List (String × Diagnostic Scalar × List String),
      redactItems characters secrets items = entries.map (Prod.map id Prod.fst) ∧
        visibleItems characters items = entries.map (Prod.map id Prod.snd) ∧
          ∀ entry ∈ entries, ShowsItem characters secrets entry
  | [] => ⟨[], rfl, rfl, by simp⟩
  | item :: rest => by
    obtain ⟨entry, hshown, hkeys, hentry⟩ := shows_redactItem hsecrets item
    obtain ⟨entries, hshowns, hkeyss, hentries⟩ := shows_redactItems hsecrets rest
    refine ⟨entry :: entries, ?_, ?_, List.forall_mem_cons.mpr ⟨hentry, hentries⟩⟩
    · rw [redactItems, hshown, hshowns, List.map_cons]
    · rw [visibleItems, hkeys, hkeyss, List.map_cons]
termination_by structural items => items

theorem shows_redactList (hsecrets : ∀ secret ∈ secrets, Hidden secret) :
    ∀ items : List (Diagnostic Scalar),
    Shows characters secrets (.list (redactList characters secrets items))
      (visibleList characters items)
  | [] => ⟨by simp [redactList, texts, textsList], by simp [visibleList], trivial⟩
  | item :: rest => shows_append (shows_redact hsecrets item) (shows_redactList hsecrets rest)
termination_by structural items => items

end

/-- A redacted value: no text in it contains a secret, and what was stored under a key
that names a secret is gone. -/
def Clean (characters : CharacterData) (secrets : List String) (shown : Diagnostic Scalar) : Prop :=
  (∀ text ∈ texts shown, ∀ secret ∈ secrets, Free secret text) ∧ Withheld characters shown

/-- A redacted value is clean exactly when its visible keys are. -/
theorem clean_redact_iff (hsecrets : ∀ secret ∈ secrets, Hidden secret)
    (value : Diagnostic Scalar) :
    Clean characters secrets (redact characters secrets value) ↔
      ∀ key ∈ visibleKeys characters value, ∀ secret ∈ secrets, Free secret key := by
  have hshows := @shows_redact _ characters _ hsecrets value
  constructor
  · rintro ⟨hfree, -⟩ key hkey secret hsecret
    exact hfree key (hshows.visible key hkey) secret hsecret
  · intro hkeys
    refine ⟨fun text htext secret hsecret => ?_, hshows.withheld⟩
    rcases hshows.covered text htext with hkey | hfree
    · exact hkeys text hkey secret hsecret
    · exact hfree secret hsecret

end Observability

/-! ## The log of an invocation -/

/-- The log an invocation writes to, if there is one, and what every record begins with. -/
structure ModelTrace (Scalar : Type) where
  path : Option String
  identity : List (String × Diagnostic Scalar)
  secrets : List String

/-- The configured secrets in an environment. -/
def ModelTrace.secretsOf (environ : List (String × String)) : List String :=
  (environ.filter fun item => decide (8 ≤ item.2.length) &&
    ["API_KEY", "TOKEN", "SECRET", "PASSWORD"].any fun tail => endsWith item.1 tail).map Prod.snd

/-- A call of `record`. -/
structure TraceEvent (Scalar : Type) where
  timestamp : String
  event : String
  details : List (String × Diagnostic Scalar)

variable {Scalar : Type} (characters : CharacterData)

/-- What is redacted and written for a call. -/
def ModelTrace.entry (trace : ModelTrace Scalar) (call : TraceEvent Scalar) : Diagnostic Scalar :=
  .dict (Observability.dictOf (("timestamp", .str call.timestamp) :: trace.identity ++
    ("event", .str call.event) :: call.details))

/-- `ModelTrace.record` -/
def ModelTrace.record (trace : ModelTrace Scalar) (log : List (Diagnostic Scalar))
    (call : TraceEvent Scalar) : List (Diagnostic Scalar) :=
  if trace.path.isNone then log
  else log ++ [Observability.redact characters trace.secrets (trace.entry call)]

variable {characters}

open Observability

/-- Only values of eight characters or more are taken for secrets. -/
theorem ModelTrace.length_of_mem_secretsOf {environ : List (String × String)} {secret : String}
    (hsecret : secret ∈ secretsOf environ) : 8 ≤ secret.length := by
  obtain ⟨item, hitem, rfl⟩ := List.mem_map.mp hsecret
  have htest := (List.mem_filter.mp hitem).2
  simp only [Bool.and_eq_true, decide_eq_true_eq] at htest
  exact htest.1

/-- A log stays clean as long as no key of what is recorded holds a secret. -/
theorem ModelTrace.log_clean (trace : ModelTrace Scalar)
    (hsecrets : ∀ secret ∈ trace.secrets, Hidden secret) {calls : List (TraceEvent Scalar)}
    (hcalls : ∀ call ∈ calls, ∀ key ∈ visibleKeys characters (trace.entry call),
      ∀ secret ∈ trace.secrets, Free secret key) {log : List (Diagnostic Scalar)}
    (hlog : ∀ line ∈ log, Clean characters trace.secrets line) :
    ∀ line ∈ calls.foldl (trace.record characters) log, Clean characters trace.secrets line := by
  induction calls generalizing log with
  | nil => exact hlog
  | cons call rest ih =>
      apply ih fun other hother => hcalls other (List.mem_cons_of_mem _ hother)
      intro line hline
      unfold ModelTrace.record at hline
      split at hline
      next => exact hlog line hline
      next =>
        rcases List.mem_append.mp hline with hold | hnew
        · exact hlog line hold
        · rw [List.mem_singleton.mp hnew, clean_redact_iff hsecrets]
          exact hcalls call List.mem_cons_self

/-- A redacted value is free of secrets exactly if the keys of its mappings are. -/
theorem redact_clean_iff (characters : CharacterData) (secrets : List String)
    (hsecrets : ∀ secret ∈ secrets, Hidden secret) (value : Diagnostic Scalar) :
    Clean characters secrets (redact characters secrets value) ↔
      ∀ key ∈ visibleKeys characters value, ∀ secret ∈ secrets, Free secret key :=
  clean_redact_iff hsecrets value

/-- Words of basic letters. -/
def sampleCharacters : CharacterData where
  isAlnum := Char.isAlphanum
  lower text := String.ofList (text.toList.map Char.toLower)
  lower_basic _ _ := rfl

/-- A message with a secret in its text and in the value of a named key. -/
def sampleDiagnostic : Diagnostic Unit :=
  .model (.dict
    [("content", .str "Returned diagnostic-secret-value and Bearer sensitive.jwt.token"),
      ("API_key", .str "unknown-key"), ("usage", .list [.scalar ()])])

theorem redact_clean_iff_sample :
    Clean sampleCharacters ["diagnostic-secret-value"]
      (redact sampleCharacters ["diagnostic-secret-value"] sampleDiagnostic) := by
  apply (redact_clean_iff sampleCharacters ["diagnostic-secret-value"] _ sampleDiagnostic).mpr
  · have hkeys : visibleKeys sampleCharacters sampleDiagnostic =
        ["content", "API_key", "usage"] := by decide +kernel
    rw [hkeys]
    decide +kernel
  · intro secret hsecret
    rw [List.mem_singleton.mp hsecret]
    exact ⟨by decide, by decide +kernel⟩

/-- A secret that is a key is written as it is. -/
theorem key_not_redacted :
    Hidden "diagnostic-secret-value" ∧
      ¬ Clean sampleCharacters ["diagnostic-secret-value"]
        (redact sampleCharacters ["diagnostic-secret-value"]
          (.dict [("tool_calls", .dict [("diagnostic-secret-value", .scalar ())])])) := by
  refine ⟨⟨by decide, by decide +kernel⟩, ?_⟩
  rintro ⟨hfree, -⟩
  exact hfree "diagnostic-secret-value" (by decide +kernel) _ List.mem_cons_self List.infix_rfl

end Aidlc
