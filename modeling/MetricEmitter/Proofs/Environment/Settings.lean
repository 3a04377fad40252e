import Mathlib.Data.List.Forall2
import Mathlib.Data.Option.Basic
import MetricEmitter.Environment.Settings
import MetricEmitter.Proofs.Text.Trimming

/-!
# What settings say

Each text setting is the text of one variable without its blank ends
(`Settings.Tells`), and a choice is the environment whose name this text is, apart
from the case of ASCII letters (`Text.SameLetters`). A text that names no
environment is reported and chooses none. `Settings.ReadFrom` says all of this of
the settings of a process, and nothing else is read.

So blank ends and the case of a choice make no difference. And as a setting has no
blank ends itself, settings that are written back as variables are read again as
they are, without a notice (`Settings.read_as_written`).
-/

set_option autoImplicit false

namespace MetricEmitter

/-! ## The case of letters -/

namespace Text

/-- The first character is an ASCII capital, and the second is the same letter in lower case. -/
def IsCapitalOf (capital small : Char) : Prop :=
  'A' ≤ capital ∧ capital ≤ 'Z' ∧ small.toNat = capital.toNat + 32

/-- Both characters are the same, apart from the case of ASCII letters. -/
def SameLetter (first second : Char) : Prop :=
  first = second ∨ IsCapitalOf first second ∨ IsCapitalOf second first

/-- Both texts are the same, apart from the case of ASCII letters. -/
def SameLetters (first second : String) : Prop :=
  List.Forall₂ SameLetter first.toList second.toList

theorem toNat_toLower (character : Char) :
    character.toLower.toNat =
      if 65 ≤ character.toNat ∧ character.toNat ≤ 90 then character.toNat + 32
      else character.toNat := by
  unfold Char.toLower
  split
  · rename_i capital
    have bounds : 65 ≤ character.toNat ∧ character.toNat ≤ 90 := capital
    have room : character.val.toNat + 32 < 4294967296 :=
      (Nat.add_le_add_right bounds.2 32).trans_lt (by decide)
    rw [if_pos bounds]
    change (character.val + 32).toNat = character.val.toNat + 32
    rw [UInt32.toNat_add]
    exact Nat.mod_eq_of_lt room
  · rename_i other
    exact (if_neg other).symm

/-- Characters are the same in lower case when they are the same letter. -/
theorem toLower_eq_iff {first second : Char} :
    first.toLower = second.toLower ↔ SameLetter first second := by
  have order (lower upper : Char) : lower ≤ upper ↔ lower.toNat ≤ upper.toNat := Iff.rfl
  rw [SameLetter, IsCapitalOf, IsCapitalOf, order, order, order, order, ← Char.toNat_inj,
    ← Char.toNat_inj, toNat_toLower, toNat_toLower]
  change _ ↔ _ ∨ (65 ≤ _ ∧ _ ≤ 90 ∧ _) ∨ 65 ≤ _ ∧ _ ≤ 90 ∧ _
  split <;> split <;> omega

theorem lowerCase_eq_iff {first second : String} :
    Choice.lowerCase first = Choice.lowerCase second ↔ SameLetters first second := by
  rw [Choice.lowerCase, Choice.lowerCase, String.ofList_inj, ← List.forall₂_eq_eq_eq,
    List.forall₂_map_left_iff, List.forall₂_map_right_iff]
  simp only [toLower_eq_iff]
  rfl

/-- No letter is blank, in upper case or in lower case. -/
theorem isBlank_toLower (character : Char) : isBlank character.toLower = isBlank character := by
  simp only [isBlank, blankRanges, List.any_cons, List.any_nil, toNat_toLower]
  split
  · rw [Bool.eq_iff_iff]
    simp only [Bool.or_eq_true, Bool.and_eq_true, decide_eq_true_eq, Bool.or_false]
    omega
  · rfl

/-- Trimming does not touch letters. -/
theorem lowerCase_trim (text : String) :
    Choice.lowerCase (trim text) = trim (Choice.lowerCase text) := by
  have same : isBlank ∘ Char.toLower = isBlank := funext isBlank_toLower
  simp only [Choice.lowerCase, trim, trimmed, dropEndWhile, String.toList_ofList,
    List.dropWhile_map, ← List.map_reverse, same]

theorem SameLetters.trim {first second : String} (same : SameLetters first second) :
    SameLetters (trim first) (trim second) := by
  rw [← lowerCase_eq_iff, lowerCase_trim, lowerCase_trim, lowerCase_eq_iff.mpr same]

theorem SameLetters.isEmpty_eq {first second : String} (same : SameLetters first second) :
    first.isEmpty = second.isEmpty := by
  rw [Bool.eq_iff_iff, String.isEmpty_iff, String.isEmpty_iff, ← String.toList_eq_nil_iff,
    ← String.toList_eq_nil_iff, ← List.length_eq_zero_iff, same.length_eq, List.length_eq_zero_iff]

end Text

open Text (Trims AllBlank Padded SameLetters)

/-! ## Choices -/

namespace Choice

theorem lowerCase_name (choice : Choice) : lowerCase choice.name = choice.name := by
  cases choice <;> decide +kernel

theorem name_injective {first second : Choice} (same : first.name = second.name) :
    first = second := by
  revert same
  cases first <;> cases second <;> decide

/-- **A text chooses the environment whose name it is, apart from the case of letters.** -/
theorem parse_eq_ok_iff {text : String} {choice : Choice} :
    parse text = .ok choice ↔ SameLetters text choice.name := by
  rw [← Text.lowerCase_eq_iff, lowerCase_name]
  unfold parse
  split
  · rename_i found chosen
    have named := List.find?_some chosen
    rw [decide_eq_true_eq] at named
    rw [Except.ok.injEq, ← named]
    exact ⟨fun same => same ▸ rfl, name_injective⟩
  · rename_i missing
    have listed : choice ∈ [lambda, workstation, standard] := by cases choice <;> decide
    have other := List.find?_eq_none.mp missing choice listed
    refine iff_of_false nofun fun same => other ?_
    rw [same, decide_eq_true_eq]

/-- A text that is the name of no environment is reported in lower case. -/
theorem parse_eq_error {text : String}
    (unknown : ∀ choice : Choice, ¬SameLetters text choice.name) :
    parse text = .error ⟨lowerCase text⟩ := by
  cases parsed : parse text with
  | ok choice => exact absurd (parse_eq_ok_iff.mp parsed) (unknown choice)
  | error reported =>
      unfold parse at parsed
      split at parsed
      · cases parsed
      · rw [← Except.error.inj parsed]

end Choice

namespace Settings

/-! ## The setting of one variable -/

/-- What is said by a variable with a text, or without one: the text without blank ends, and nothing
if that leaves nothing. -/
structure Tells (text said : Option String) : Prop where
  some_iff : ∀ core, said = some core ↔ core ≠ "" ∧ ∃ whole, text = some whole ∧ Trims whole core
  none_iff : said = none ↔ ∀ whole, text = some whole → AllBlank whole.toList

theorem setting_eq_some_iff {process : Variables} {name core : String} :
    setting process name = some core ↔
      core ≠ "" ∧ ∃ whole, process name = some whole ∧ Trims whole core := by
  rw [setting, Option.filter_eq_some_iff, Option.map_eq_some_iff, and_comm]
  simp only [Text.trims_iff, Bool.not_eq_true', ← Bool.not_eq_true, String.isEmpty_iff]

theorem setting_eq_none_iff {process : Variables} {name : String} :
    setting process name = none ↔
      ∀ whole, process name = some whole → AllBlank whole.toList := by
  rw [setting, Option.filter_eq_none_iff]
  simp only [Option.map_eq_some_iff, forall_exists_index, and_imp, forall_apply_eq_imp_iff₂,
    Bool.not_eq_true', ← Bool.not_eq_true, String.isEmpty_iff, not_not, Text.trim_eq_empty_iff]

/-- **A setting is what its variable says**, and nothing else is. -/
theorem tells_iff {process : Variables} {name : String} {said : Option String} :
    Tells (process name) said ↔ setting process name = said := by
  constructor
  · intro tells
    refine Option.ext fun core => ?_
    rw [setting_eq_some_iff, tells.some_iff]
  · rintro rfl
    exact ⟨fun _ => setting_eq_some_iff, setting_eq_none_iff⟩

/-- Padding a variable does not change what it says. -/
theorem setting_eq_of_padded {process padded : Variables} {name : String}
    (related : Option.Rel (fun inner outer : String => Padded inner.toList outer.toList)
      (process name) (padded name)) :
    setting padded name = setting process name := by
  unfold setting
  generalize process name = text at related
  generalize padded name = outer at related
  cases related with
  | some same => rw [Option.map_some, Option.map_some, Text.trim_eq_of_padded same]
  | none => rfl

/-- A variable that has a setting as its text says this setting. -/
theorem setting_of_eq_setting {process written : Variables} {name other : String}
    (same : written other = setting process name) :
    setting written other = setting process name := by
  cases said : setting process name with
  | none =>
      rw [said] at same
      rw [setting_eq_none_iff, same]
      exact nofun
  | some core =>
      rw [said] at same
      obtain ⟨started, whole, _, trims⟩ := setting_eq_some_iff.mp said
      rw [setting_eq_some_iff, same]
      exact ⟨started, core, rfl, Text.trims_iff.mpr trims.trim_core⟩

/-! ## The choice -/

theorem choose_eq_of_sameLetters {first second : Option String}
    (related : Option.Rel SameLetters first second) : choose first = choose second := by
  cases related with
  | none => rfl
  | some same => rw [choose, choose, Choice.parse, Choice.parse, Text.lowerCase_eq_iff.mpr same]

theorem choose_eq_some_iff {said : Option String} {choice : Choice} :
    (choose said).1 = some choice ↔ ∃ text, said = some text ∧ SameLetters text choice.name := by
  cases said with
  | none => exact iff_of_false nofun fun ⟨_, impossible, _⟩ => nomatch impossible
  | some text =>
      simp only [Option.some.injEq, exists_eq_left', ← Choice.parse_eq_ok_iff, choose]
      cases Choice.parse text <;> simp

theorem choose_name (choice : Option Choice) : choose (choice.map Choice.name) = (choice, []) := by
  cases choice with
  | none => rfl
  | some choice =>
      have named : Choice.parse choice.name = .ok choice :=
        Choice.parse_eq_ok_iff.mpr (Text.lowerCase_eq_iff.mp rfl)
      rw [Option.map_some, choose, named]

/-- The settings of texts that are the same apart from the case of letters are so too. -/
theorem setting_sameLetters {process other : Variables} {name : String}
    (related : Option.Rel SameLetters (process name) (other name)) :
    Option.Rel SameLetters (setting process name) (setting other name) := by
  unfold setting
  generalize process name = text at related
  generalize other name = otherText at related
  cases related with
  | none => exact .none
  | some same =>
      rw [Option.map_some, Option.map_some, Option.filter_some, Option.filter_some,
        same.trim.isEmpty_eq]
      split
      · exact .some same.trim
      · exact .none

/-! ## All settings -/

/-- The settings and notices that reading the variables of a process gives. -/
structure ReadFrom (process : Variables) (settings : Settings) (notices : List Notice) : Prop where
  serviceName : Tells (process "AWS_EMF_SERVICE_NAME") settings.serviceName
  serviceType : Tells (process "AWS_EMF_SERVICE_TYPE") settings.serviceType
  logGroup : Tells (process "AWS_EMF_LOG_GROUP_NAME") settings.logGroup
  namespaceName : Tells (process "AWS_EMF_NAMESPACE") settings.namespaceName
  choice : ∀ choice, settings.choice = some choice ↔
    ∃ text, Tells (process "AWS_EMF_ENVIRONMENT") (some text) ∧ SameLetters text choice.name
  /-- A text that names no environment is reported once. -/
  warned : ∀ text, Tells (process "AWS_EMF_ENVIRONMENT") (some text) →
    (∀ choice : Choice, ¬SameLetters text choice.name) →
    notices = [.choiceIgnored ⟨Choice.lowerCase text⟩] ∧
      notices.map Notice.severity = [.warning]
  /-- Nothing else is reported. -/
  silent : (∀ text, Tells (process "AWS_EMF_ENVIRONMENT") (some text) →
    ∃ choice : Choice, SameLetters text choice.name) → notices = []

theorem readFrom_read (process : Variables) :
    ReadFrom process (read process).1 (read process).2 where
  serviceName := tells_iff.mpr rfl
  serviceType := tells_iff.mpr rfl
  logGroup := tells_iff.mpr rfl
  namespaceName := tells_iff.mpr rfl
  choice := by
    intro choice
    simp only [tells_iff]
    exact choose_eq_some_iff
  warned := by
    intro text told unknown
    have said : setting process choiceVariable = some text := tells_iff.mp told
    have notices : (read process).2 = [.choiceIgnored ⟨Choice.lowerCase text⟩] := by
      change (choose (setting process choiceVariable)).2 = _
      rw [said, choose, Choice.parse_eq_error unknown]
    rw [notices]
    exact ⟨rfl, rfl⟩
  silent := by
    intro known
    change (choose (setting process choiceVariable)).2 = []
    cases told : setting process choiceVariable with
    | none => rfl
    | some text =>
        obtain ⟨choice, same⟩ := known text (tells_iff.mpr told)
        rw [choose, Choice.parse_eq_ok_iff.mpr same]

/-- Nothing is read but the settings of single variables. -/
theorem read_eq_of_setting_eq {process other : Variables}
    (same : ∀ name, setting other name = setting process name) : read other = read process := by
  simp only [read, same]

/-- Both processes have the same variables, apart from the one that chooses an environment. -/
def SameButChoice (process other : Variables) : Prop :=
  ∀ name, name ≠ choiceVariable → other name = process name

/-- What chooses an environment has no influence on the texts that are read. -/
theorem texts_eq_of_sameButChoice {process other : Variables} (same : SameButChoice process other) :
    { (read other).1 with choice := none } = { (read process).1 with choice := none } := by
  have texts (name : String) (apart : name ≠ choiceVariable) :
      setting other name = setting process name := by
    rw [setting, setting, same name apart]
  simp only [read, texts serviceNameVariable (by decide), texts serviceTypeVariable (by decide),
    texts logGroupVariable (by decide), texts namespaceVariable (by decide)]

/-! ## Written and read again -/

/-- The variables that settings are written to. -/
def asVariables (settings : Settings) : Variables := fun name =>
  if name = serviceNameVariable then settings.serviceName
  else if name = serviceTypeVariable then settings.serviceType
  else if name = logGroupVariable then settings.logGroup
  else if name = namespaceVariable then settings.namespaceName
  else if name = choiceVariable then settings.choice.map Choice.name
  else none

/-- The name of a choice has no blank ends. -/
theorem setting_of_eq_name {written : Variables} {name : String} {choice : Option Choice}
    (same : written name = choice.map Choice.name) :
    setting written name = choice.map Choice.name := by
  rw [setting, same]
  cases choice with
  | none => rfl
  | some choice => cases choice <;> decide +kernel

theorem read_asVariables (process : Variables) :
    read (read process).1.asVariables = ((read process).1, []) := by
  have texts (name : String) (written : (read process).1.asVariables name = setting process name) :
      setting (read process).1.asVariables name = setting process name :=
    setting_of_eq_setting written
  have chosen : setting (read process).1.asVariables choiceVariable =
      (read process).1.choice.map Choice.name := setting_of_eq_name rfl
  rw [read, texts serviceNameVariable rfl, texts serviceTypeVariable rfl,
    texts logGroupVariable rfl, texts namespaceVariable rfl, chosen, choose_name]
  rfl

/-- **Settings are read as they are written**: each of them from one variable, without regard to
blank ends and to the case of a choice; the choice does not touch the others; and settings that are
written back are read again without a notice. -/
theorem read_as_written :
    (∀ process, ReadFrom process (read process).1 (read process).2) ∧
    (∀ process padded : Variables,
      (∀ name, Option.Rel (fun inner outer : String => Padded inner.toList outer.toList)
        (process name) (padded name)) → read padded = read process) ∧
    (∀ process other, SameButChoice process other →
      Option.Rel SameLetters (process choiceVariable) (other choiceVariable) →
        read other = read process) ∧
    (∀ process other, SameButChoice process other →
      { (read other).1 with choice := none } = { (read process).1 with choice := none }) ∧
    ∀ process, read (read process).1.asVariables = ((read process).1, []) := by
  refine ⟨readFrom_read, ?_, ?_, fun _ _ => texts_eq_of_sameButChoice, read_asVariables⟩
  · intro process padded related
    exact read_eq_of_setting_eq fun name => setting_eq_of_padded (related name)
  · intro process other same sameLetters
    have choice := choose_eq_of_sameLetters (setting_sameLetters sameLetters)
    have texts := texts_eq_of_sameButChoice same
    simp only [read, mk.injEq] at texts
    obtain ⟨serviceName, serviceType, logGroup, namespaceName, -⟩ := texts
    rw [read, read, serviceName, serviceType, logGroup, namespaceName, choice]

/-- A choice in small letters, the same settings with padding, the choice in capitals, and a name
that only looks like a choice, as its second letter is a capital of another alphabet. -/
theorem read_as_written_padded :
    let process (name type choice : String) : Variables := fun asked =>
      if asked = serviceNameVariable then some name
      else if asked = serviceTypeVariable then some type
      else if asked = choiceVariable then some choice
      else none
    let plain := process "checkout" "" "lambda"
    let padded := process "\u2003checkout\n" "\t " " lambda\u00a0"
    let capital := process "checkout" "" "LAMBDA"
    let alike := process "checkout" "" " L\u0410MBDA"
    read plain = (⟨some "checkout", none, none, none, some .lambda⟩, []) ∧
      read padded = read plain ∧ read capital = read plain ∧
      { (read alike).1 with choice := none } = { (read plain).1 with choice := none } ∧
      (read alike).2 = [.choiceIgnored ⟨"l\u0410mbda"⟩] ∧
      read (read padded).1.asVariables = read plain := by
  intro process plain padded capital alike
  obtain ⟨readFrom, unpadded, anyCase, sameTexts, readBack⟩ := read_as_written
  have plainRead : read plain = (⟨some "checkout", none, none, none, some .lambda⟩, []) := by
    decide +kernel
  have paddedRead : read padded = read plain := by
    refine unpadded plain padded fun asked => ?_
    dsimp only [plain, padded, process]
    split_ifs
    · exact .some ⟨['\u2003'], ['\n'], List.forall_mem_singleton.mpr rfl,
        List.forall_mem_singleton.mpr rfl, rfl⟩
    · have blank : AllBlank ['\t', ' '] :=
        List.forall_mem_cons.mpr ⟨rfl, List.forall_mem_singleton.mpr rfl⟩
      exact .some ⟨['\t', ' '], [], blank, List.forall_mem_nil _, rfl⟩
    · exact .some ⟨[' '], ['\u00a0'], List.forall_mem_singleton.mpr rfl,
        List.forall_mem_singleton.mpr rfl, rfl⟩
    · exact .none
  have apart (first second : String) :
      SameButChoice (process "checkout" "" first) (process "checkout" "" second) := by
    intro asked other
    dsimp only [process]
    rw [if_neg other, if_neg other]
  refine ⟨plainRead, paddedRead, ?_, sameTexts plain alike (apart _ _), ?_, ?_⟩
  · exact anyCase plain capital (apart _ _) (.some (Text.lowerCase_eq_iff.mp (by decide +kernel)))
  · have unknown : ∀ choice : Choice, ¬SameLetters "L\u0410MBDA" choice.name := by
      intro choice
      rw [← Text.lowerCase_eq_iff]
      cases choice <;> decide +kernel
    have told : Tells (alike "AWS_EMF_ENVIRONMENT") (some "L\u0410MBDA") :=
      tells_iff.mpr (by decide +kernel)
    have lower : Choice.lowerCase "L\u0410MBDA" = "l\u0410mbda" := by decide +kernel
    rw [((readFrom alike).warned _ told unknown).1, lower]
  · rw [readBack, paddedRead, plainRead]

end Settings

end MetricEmitter
