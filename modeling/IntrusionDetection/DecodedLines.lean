import IntrusionDetection.TextSplitting
import IntrusionDetection.Utf8Decoding

namespace PyText

/-!
# Lines of decoded bytes

An ASCII byte is never part of a longer character.  Decoding therefore does not
move line ends: the lines of a decoded text are the decoded lines of its bytes.
-/

/-! ### What a character that has begun can become -/

namespace PendingChar

/-- The least value after the next byte. -/
def least (pending : PendingChar) : Nat :=
  0x40 * pending.value + (pending.low - 0x80)

/-- The greatest value after the next byte. -/
def greatest (pending : PendingChar) : Nat :=
  0x40 * pending.value + (pending.high - 0x80)

/-- It takes no ASCII byte, and it becomes a character outside of ASCII. -/
structure Sound (pending : PendingChar) : Prop where
  low : 0x80 ≤ pending.low
  high : pending.high ≤ 0xBF
  missing : pending.missing ≤ 3
  last :
    pending.missing ≤ 1 → 2 ≤ pending.value ∧ pending.value < 0x4400
  lastButOne :
    pending.missing = 2 →
    2 ≤ pending.least ∧ pending.greatest < 0x4400
  lastButTwo :
    pending.missing = 3 →
    1 ≤ pending.least ∧ pending.greatest < 0x110

end PendingChar

/-- A character that begins is sound. -/
theorem sound_of_beginChar
    {byte : UInt8}
    {pending : PendingChar}
    (began : beginChar byte = .more pending) :
    pending.Sound := by
  have bound := byte.toNat_lt
  simp only [beginChar] at began
  repeat' split at began
  all_goals
    simp only [Utf8Step.more.injEq, reduceCtorEq] at began
  all_goals
    subst began
    constructor
    all_goals
      dsimp only [PendingChar.least, PendingChar.greatest]
      omega

/-- A byte that is finished is an ASCII character or ill-formed. -/
theorem item_of_beginChar
    {byte : UInt8}
    {item : Utf8Item}
    (ended : beginChar byte = .done item) :
    byte.toNat < 0x80 ∧ item = .char (chr byte.toNat) ∨
      0x80 ≤ byte.toNat ∧ item = .invalid [byte] := by
  simp only [beginChar] at ended
  repeat' split at ended
  all_goals
    cases ended
  · rename_i ascii
    exact Or.inl ⟨ascii, rfl⟩
  · rename_i notAscii _
    exact Or.inr ⟨Nat.le_of_not_lt notAscii, rfl⟩
  · rename_i notAscii _ _ _ _ _ _ _ _
    exact Or.inr ⟨Nat.le_of_not_lt notAscii, rfl⟩

/-- An ASCII byte is a character by itself. -/
theorem beginChar_ascii
    {byte : UInt8}
    (ascii : byte.toNat < 0x80) :
    beginChar byte = .done (.char (chr byte.toNat)) :=
  if_pos ascii

namespace PendingChar.Sound

variable {pending : PendingChar} {byte : UInt8}

/-- A character that goes on is sound. -/
theorem more
    (sound : pending.Sound)
    {next : PendingChar}
    (goesOn : continueChar pending byte = some (.more next)) :
    next.Sound := by
  obtain ⟨low, high, missing, last, lastButOne, lastButTwo⟩ := sound
  unfold least greatest at lastButOne lastButTwo
  simp only [continueChar] at goesOn
  split at goesOn
  · split at goesOn
    · simp only [Option.some.injEq, reduceCtorEq] at goesOn
    · simp only [Option.some.injEq, Utf8Step.more.injEq] at goesOn
      subst goesOn
      constructor
      all_goals
        dsimp only [least, greatest]
        omega
  · cases goesOn

/-- A character that ends is not an ASCII character. -/
theorem done
    (sound : pending.Sound)
    {item : Utf8Item}
    (ended : continueChar pending byte = some (.done item)) :
    ∃ char : CodePoint, item = .char char ∧ 0x80 ≤ char.val := by
  have last := sound.last
  have high := sound.high
  simp only [continueChar] at ended
  split at ended
  · split at ended
    · simp only [Option.some.injEq, Utf8Step.done.injEq] at ended
      refine ⟨_, ended.symm, ?_⟩
      rw [chr, Fin.val_ofNat, Nat.mod_eq_of_lt (by omega)]
      omega
    · simp only [Option.some.injEq, reduceCtorEq] at ended
  · cases ended

/-- An ASCII byte does not continue a character. -/
theorem not_ascii
    (sound : pending.Sound)
    (ascii : byte.toNat < 0x80) :
    continueChar pending byte = none := by
  have low := sound.low
  exact if_neg fun inRange => by omega

end PendingChar.Sound

/-! ### ASCII bytes in a byte string -/

/-- No ASCII character is among the items. -/
def NoAscii (items : List Utf8Item) : Prop :=
  ∀ char : CodePoint, char.val < 0x80 → .char char ∉ items

/-- A single item that is no ASCII character. -/
theorem noAscii_of_item
    {item : Utf8Item}
    (above : ∀ char : CodePoint, item = .char char → 0x80 ≤ char.val) :
    NoAscii [item] := by
  intro char ascii member
  have large := above char (List.mem_singleton.mp member).symm
  exact Nat.not_lt_of_le large ascii

/-- What comes before an ASCII character contains all other items. -/
theorem exists_of_noAscii
    {items rest front back : List Utf8Item}
    {char : CodePoint}
    (noAscii : NoAscii items)
    (ascii : char.val < 0x80)
    (split : items ++ rest = front ++ .char char :: back) :
    ∃ front',
      front = items ++ front' ∧ rest = front' ++ .char char :: back := by
  rcases List.append_eq_append_iff.mp split with
    ⟨front', same, rest⟩ | ⟨between, same, rest⟩
  · exact ⟨front', same, rest⟩
  · cases between with
    | nil =>
        refine ⟨[], ?_, rest.symm⟩
        rw [same, List.append_nil, List.append_nil]
    | cons item others =>
        obtain ⟨isChar, _⟩ := List.cons.inj rest
        apply (noAscii char ascii _).elim
        rw [same, isChar]
        simp

section Items

variable {pending : Option PendingChar}

/-- An ASCII byte ends what has begun and is a character by itself. -/
theorem utf8ItemsFrom_ascii
    (sound : ∀ known ∈ pending, PendingChar.Sound known)
    {byte : UInt8}
    (ascii : byte.toNat < 0x80)
    (rest : Bytes) :
    utf8ItemsFrom pending (byte :: rest) =
      utf8ItemsFrom pending [] ++
        .char (chr byte.toNat) :: utf8Items rest := by
  have begun := beginChar_ascii ascii
  cases pending with
  | none =>
      simp only [utf8ItemsFrom, begun]
      rfl
  | some known =>
      have stops := (sound known rfl).not_ascii ascii
      simp only [utf8ItemsFrom, stops, begun]
      rfl

/-- What has begun is no ASCII character when it is cut off. -/
theorem noAscii_utf8ItemsFrom_nil :
    NoAscii (utf8ItemsFrom pending []) := by
  intro char ascii member
  cases pending with
  | none =>
      cases member
  | some known =>
      cases List.mem_singleton.mp member

/-- A byte outside of ASCII that begins something anew. -/
theorem utf8ItemsFrom_begin
    {byte : UInt8}
    (notAscii : 0x80 ≤ byte.toNat) :
    ∃ items next,
      NoAscii items ∧
        (∀ known ∈ next, PendingChar.Sound known) ∧
        ∀ rest,
          utf8ItemsFrom none (byte :: rest) =
            items ++ utf8ItemsFrom next rest := by
  cases begins : beginChar byte with
  | done item =>
      have isItem : item = .invalid [byte] := by
        rcases item_of_beginChar begins with ⟨ascii, _⟩ | ⟨_, isItem⟩
        · exact (Nat.not_lt_of_le notAscii ascii).elim
        · exact isItem
      refine ⟨[item], none, noAscii_of_item ?_, by simp, fun rest => ?_⟩
      · rintro char rfl
        cases isItem
      · simp only [utf8ItemsFrom, begins]
        rfl
  | more next =>
      refine ⟨[], some next, ?_, ?_, fun rest => ?_⟩
      · exact fun _ _ => List.not_mem_nil
      · rintro known ⟨⟩
        exact sound_of_beginChar begins
      · simp only [utf8ItemsFrom, begins]
        rfl

/-- A byte outside of ASCII adds no ASCII character. -/
theorem utf8ItemsFrom_notAscii
    (sound : ∀ known ∈ pending, PendingChar.Sound known)
    {byte : UInt8}
    (notAscii : 0x80 ≤ byte.toNat) :
    ∃ items next,
      NoAscii items ∧
        (∀ known ∈ next, PendingChar.Sound known) ∧
        ∀ rest,
          utf8ItemsFrom pending (byte :: rest) =
            items ++ utf8ItemsFrom next rest := by
  cases pending with
  | none =>
      exact utf8ItemsFrom_begin notAscii
  | some known =>
      have isSound := sound known rfl
      cases continues : continueChar known byte with
      | none =>
          obtain ⟨items, next, noAscii, nextSound, begins⟩ :=
            utf8ItemsFrom_begin notAscii
          refine ⟨.invalid known.bytes :: items, next, ?_, nextSound, ?_⟩
          · intro char ascii member
            rcases List.mem_cons.mp member with same | member
            · cases same
            · exact noAscii char ascii member
          · intro rest
            rw [List.cons_append, ← begins rest]
            simp only [utf8ItemsFrom, continues]
      | some step =>
          cases step with
          | done item =>
              refine ⟨[item], none, noAscii_of_item ?_, by simp, ?_⟩
              · obtain ⟨char, isChar, large⟩ := isSound.done continues
                intro other same
                cases isChar.symm.trans same
                exact large
              · intro rest
                simp only [utf8ItemsFrom, continues]
                rfl
          | more next =>
              refine ⟨[], some next, ?_, ?_, ?_⟩
              · exact fun _ _ => List.not_mem_nil
              · rintro other ⟨⟩
                exact isSound.more continues
              · intro rest
                simp only [utf8ItemsFrom, continues]
                rfl

/-- Before an ASCII byte everything is decoded, and after it anew. -/
theorem utf8ItemsFrom_append_ascii
    (sound : ∀ known ∈ pending, PendingChar.Sound known)
    {byte : UInt8}
    (ascii : byte.toNat < 0x80)
    (data rest : Bytes) :
    utf8ItemsFrom pending (data ++ byte :: rest) =
      utf8ItemsFrom pending data ++
        .char (chr byte.toNat) :: utf8Items rest := by
  induction data generalizing pending with
  | nil =>
      exact utf8ItemsFrom_ascii sound ascii rest
  | cons first later inductionHypothesis =>
      rw [List.cons_append]
      rcases Nat.lt_or_ge first.toNat 0x80 with isAscii | notAscii
      · rw [utf8ItemsFrom_ascii sound isAscii,
          utf8ItemsFrom_ascii sound isAscii, utf8Items,
          inductionHypothesis (by simp), List.append_assoc]
        rfl
      · obtain ⟨items, next, _, nextSound, read⟩ :=
          utf8ItemsFrom_notAscii sound notAscii
        rw [read, read, inductionHypothesis nextSound, List.append_assoc]

/-- An ASCII character comes from a byte of its own. -/
theorem exists_of_utf8ItemsFrom
    (sound : ∀ known ∈ pending, PendingChar.Sound known)
    {data : Bytes}
    {front back : List Utf8Item}
    {char : CodePoint}
    (ascii : char.val < 0x80)
    (split : utf8ItemsFrom pending data = front ++ .char char :: back) :
    ∃ before after,
      data = before ++ UInt8.ofNat char.val :: after ∧
        utf8ItemsFrom pending before = front ∧
        utf8Items after = back := by
  induction data generalizing pending front with
  | nil =>
      obtain ⟨front', _, rest⟩ :=
        exists_of_noAscii noAscii_utf8ItemsFrom_nil ascii
          ((List.append_nil _).trans split)
      simp at rest
  | cons first later inductionHypothesis =>
      rcases Nat.lt_or_ge first.toNat 0x80 with isAscii | notAscii
      · rw [utf8ItemsFrom_ascii sound isAscii] at split
        obtain ⟨front', rfl, rest⟩ :=
          exists_of_noAscii noAscii_utf8ItemsFrom_nil ascii split
        rcases List.cons_eq_append_iff.mp rest with
          ⟨rfl, same⟩ | ⟨others, rfl, moreItems⟩
        · obtain ⟨isChar, rfl⟩ := List.cons.inj same
          cases Utf8Item.char.inj isChar
          have value : (chr first.toNat).val = first.toNat :=
            Nat.mod_eq_of_lt (Nat.lt_trans isAscii (by decide))
          refine ⟨[], later, ?_, (List.append_nil _).symm, rfl⟩
          rw [value, UInt8.ofNat_toNat]
          rfl
        · obtain ⟨before, after, rfl, isBefore, isAfter⟩ :=
            @inductionHypothesis none (by simp) others moreItems
          refine ⟨first :: before, after, rfl, ?_, isAfter⟩
          rw [utf8ItemsFrom_ascii sound isAscii, utf8Items, isBefore]
      · obtain ⟨items, next, noAscii, nextSound, read⟩ :=
          utf8ItemsFrom_notAscii sound notAscii
        rw [read] at split
        obtain ⟨front', rfl, rest⟩ :=
          exists_of_noAscii noAscii ascii split
        obtain ⟨before, after, rfl, isBefore, isAfter⟩ :=
          inductionHypothesis nextSound rest
        refine ⟨first :: before, after, rfl, ?_, isAfter⟩
        rw [read, isBefore]

end Items

/-! ### Decoded texts -/

/-- The character that stands for an item. -/
def Utf8Item.shown (item : Utf8Item) : CodePoint :=
  item.char?.getD (chr 0xFFFD)

/-- Only a character is shown as an ASCII character. -/
theorem Utf8Item.eq_char_of_shown
    {item : Utf8Item}
    (ascii : item.shown.val < 0x80) :
    item = .char item.shown := by
  cases item with
  | char decoded =>
      rfl
  | invalid bytes =>
      have large : ¬ (chr 0xFFFD).val < 0x80 := by
        decide
      exact (large ascii).elim

/-- Before an ASCII byte everything is decoded, and after it anew. -/
theorem decodeUtf8Replace_append_ascii
    {byte : UInt8}
    (ascii : byte.toNat < 0x80)
    (data rest : Bytes) :
    decodeUtf8Replace (data ++ byte :: rest) =
      decodeUtf8Replace data ++
        chr byte.toNat :: decodeUtf8Replace rest := by
  have items : utf8Items (data ++ byte :: rest) = _ :=
    utf8ItemsFrom_append_ascii (by simp) ascii data rest
  unfold decodeUtf8Replace
  rw [items, List.map_append, List.map_cons]
  rfl

/-- An ASCII character of a text comes from a byte of its own. -/
theorem exists_of_decodeUtf8Replace
    {data : Bytes}
    {front back : Str}
    {char : CodePoint}
    (ascii : char.val < 0x80)
    (decoded : decodeUtf8Replace data = front ++ char :: back) :
    ∃ before after,
      data = before ++ UInt8.ofNat char.val :: after ∧
        decodeUtf8Replace before = front ∧
        decodeUtf8Replace after = back := by
  obtain ⟨frontItems, rest, items, rfl, shown⟩ :=
    List.map_eq_append_iff.mp decoded
  obtain ⟨item, backItems, rfl, isChar, rfl⟩ :=
    List.map_eq_cons_iff.mp shown
  have isItem : item = .char char := by
    have same := Utf8Item.eq_char_of_shown (isChar ▸ ascii)
    rw [same]
    exact congrArg Utf8Item.char isChar
  rw [isItem] at items
  obtain ⟨before, after, whole, isBefore, isAfter⟩ :=
    exists_of_utf8ItemsFrom (by simp) ascii items
  refine ⟨before, after, whole, ?_, ?_⟩
  · rw [decodeUtf8Replace, utf8Items, isBefore]
  · rw [decodeUtf8Replace, isAfter]

/-- No byte is decoded to nothing. -/
theorem utf8ItemsFrom_eq_nil
    {pending : Option PendingChar}
    {data : Bytes}
    (empty : utf8ItemsFrom pending data = []) :
    pending = none ∧ data = [] := by
  induction data generalizing pending with
  | nil =>
      cases pending with
      | none =>
          exact ⟨rfl, rfl⟩
      | some known =>
          cases empty
  | cons byte rest inductionHypothesis =>
      cases pending with
      | none =>
          simp only [utf8ItemsFrom] at empty
          split at empty
          · cases empty
          · cases (inductionHypothesis empty).1
      | some known =>
          simp only [utf8ItemsFrom] at empty
          split at empty
          · cases empty
          · cases (inductionHypothesis empty).1
          · cases empty

/-- Only no bytes are decoded to no text. -/
theorem eq_nil_of_decodeUtf8Replace
    {data : Bytes}
    (empty : decodeUtf8Replace data = []) :
    data = [] :=
  (utf8ItemsFrom_eq_nil (List.map_eq_nil_iff.mp empty)).2

/-- Between two byte strings there is an ASCII byte, or one is empty. -/
def IsBoundary (first second : Bytes) : Prop :=
  (∀ byte ∈ first.getLast?, byte.toNat < 0x80) ∨
    ∀ byte ∈ second.head?, byte.toNat < 0x80

/-- At a boundary two byte strings are decoded apart from each other. -/
theorem decodeUtf8Replace_append
    {first second : Bytes}
    (boundary : IsBoundary first second) :
    decodeUtf8Replace (first ++ second) =
      decodeUtf8Replace first ++ decodeUtf8Replace second := by
  rcases boundary with endsAscii | beginsAscii
  · rcases List.eq_nil_or_concat' first with rfl | ⟨before, byte, rfl⟩
    · rfl
    · have ascii := endsAscii byte (by simp)
      have whole := decodeUtf8Replace_append_ascii ascii before second
      have alone := decodeUtf8Replace_append_ascii ascii before []
      rw [List.append_assoc, List.singleton_append, whole, alone,
        List.append_assoc]
      rfl
  · cases second with
    | nil =>
        rw [List.append_nil]
        exact (List.append_nil _).symm
    | cons byte rest =>
        have ascii := beginsAscii byte rfl
        have alone := decodeUtf8Replace_append_ascii ascii [] rest
        rw [decodeUtf8Replace_append_ascii ascii first rest]
        exact congrArg (decodeUtf8Replace first ++ ·) alone.symm

/-! ### Splitting at a pair -/

section Pair

variable {Item : Type} [DecidableEq Item] {first second : Item}

/-- The parts between the occurrences of a pair. -/
def splitPair (first second : Item) : List Item → List (List Item)
  | [] => [[]]
  | [item] => [[item]]
  | item :: next :: rest =>
      if item = first ∧ next = second then
        [] :: splitPair first second rest
      else
        match splitPair first second (next :: rest) with
        | [] => [[item]]
        | part :: parts => (item :: part) :: parts

/-- There is a first part. -/
theorem splitPair_ne_nil (items : List Item) :
    splitPair first second items ≠ [] := by
  cases items with
  | nil =>
      exact List.cons_ne_nil _ _
  | cons item rest =>
      cases rest with
      | nil =>
          exact List.cons_ne_nil _ _
      | cons next rest =>
          rw [splitPair]
          split
          · exact List.cons_ne_nil _ _
          · split <;> exact List.cons_ne_nil _ _

/-- An item that begins no pair is added to the first part. -/
theorem splitPair_cons
    {item next : Item}
    {rest part : List Item}
    {parts : List (List Item)}
    (notPair : ¬ (item = first ∧ next = second))
    (split : splitPair first second (next :: rest) = part :: parts) :
    splitPair first second (item :: next :: rest) =
      (item :: part) :: parts := by
  rw [splitPair, if_neg notPair, split]

/-- A pair ends the first part. -/
theorem splitPair_pair (rest : List Item) :
    splitPair first second (first :: second :: rest) =
      [] :: splitPair first second rest := by
  rw [splitPair, if_pos ⟨rfl, rfl⟩]

/-- Does a pair occur among the items? -/
def HasPair (first second : Item) (items : List Item) : Prop :=
  [first, second] <:+: items

instance (items : List Item) : Decidable (HasPair first second items) :=
  inferInstanceAs (Decidable (_ <:+: _))

omit [DecidableEq Item] in
/-- A pair that occurs later occurs. -/
theorem HasPair.cons
    {items : List Item}
    (has : HasPair first second items)
    (item : Item) :
    HasPair first second (item :: items) :=
  has.trans (List.suffix_cons item items).isInfix

omit [DecidableEq Item] in
/-- A pair occurs in items that begin with it. -/
theorem hasPair_of_head (rest : List Item) :
    HasPair first second (first :: second :: rest) :=
  (List.prefix_append [first, second] rest).isInfix

/-- Parts without the pair that were joined by it are found again. -/
theorem splitPair_append
    (different : first ≠ second)
    {part : List Item}
    (without : ¬ HasPair first second part)
    (rest : List Item) :
    splitPair first second (part ++ first :: second :: rest) =
      part :: splitPair first second rest := by
  induction part with
  | nil =>
      exact splitPair_pair rest
  | cons item part inductionHypothesis =>
      have split := inductionHypothesis (mt (HasPair.cons · item) without)
      cases part with
      | nil =>
          apply splitPair_cons _ split
          rintro ⟨rfl, same⟩
          exact different same
      | cons next others =>
          apply splitPair_cons _ split
          rintro ⟨rfl, rfl⟩
          exact without (hasPair_of_head others)

/-- Items without the pair are one part. -/
theorem splitPair_of_without
    {part : List Item}
    (without : ¬ HasPair first second part) :
    splitPair first second part = [part] := by
  induction part with
  | nil =>
      rfl
  | cons item part inductionHypothesis =>
      have split := inductionHypothesis (mt (HasPair.cons · item) without)
      cases part with
      | nil =>
          rfl
      | cons next others =>
          apply splitPair_cons _ split
          rintro ⟨rfl, rfl⟩
          exact without (hasPair_of_head others)

/-- Joined parts without the pair are found again. -/
theorem splitPair_intercalate
    (different : first ≠ second)
    {parts : List (List Item)}
    (notEmpty : parts ≠ [])
    (without : ∀ part ∈ parts, ¬ HasPair first second part) :
    splitPair first second ([first, second].intercalate parts) =
      parts := by
  induction parts with
  | nil =>
      exact (notEmpty rfl).elim
  | cons part rest inductionHypothesis =>
      rw [List.forall_mem_cons] at without
      cases rest with
      | nil =>
          rw [List.intercalate_singleton]
          exact splitPair_of_without without.1
      | cons next others =>
          have later :=
            inductionHypothesis (List.cons_ne_nil _ _) without.2
          rw [List.intercalate_cons_cons, List.append_assoc,
            List.cons_append, List.cons_append, List.nil_append,
            splitPair_append different without.1, later]

omit [DecidableEq Item] in
/-- An item before the first part is an item before the joined parts. -/
theorem intercalate_cons_head
    (separator part : List Item)
    (item : Item)
    (parts : List (List Item)) :
    separator.intercalate ((item :: part) :: parts) =
      item :: separator.intercalate (part :: parts) := by
  cases parts with
  | nil =>
      simp
  | cons next others =>
      simp [List.intercalate_cons_cons]

/-- The parts are joined to the items again. -/
theorem intercalate_splitPair (items : List Item) :
    [first, second].intercalate (splitPair first second items) =
      items := by
  induction items using splitPair.induct first second with
  | case1 =>
      rfl
  | case2 item =>
      rfl
  | case3 item next rest isPair inductionHypothesis =>
      obtain ⟨rfl, rfl⟩ := isPair
      rw [splitPair_pair,
        List.intercalate_cons_of_ne_nil (splitPair_ne_nil rest),
        inductionHypothesis]
      rfl
  | case4 item next rest notPair empty inductionHypothesis =>
      exact (splitPair_ne_nil _ empty).elim
  | case5 item next rest notPair part parts split inductionHypothesis =>
      rw [splitPair_cons notPair split, intercalate_cons_head, ← split,
        inductionHypothesis]

/-- No part contains the pair. -/
theorem not_hasPair_of_mem_splitPair (items : List Item) :
    ∀ part ∈ splitPair first second items,
      ¬ HasPair first second part := by
  induction items using splitPair.induct first second with
  | case1 =>
      simp [splitPair, HasPair]
  | case2 item =>
      intro part member has
      rw [List.mem_singleton.mp member] at has
      have long := has.length_le
      simp at long
  | case3 item next rest isPair inductionHypothesis =>
      obtain ⟨rfl, rfl⟩ := isPair
      rw [splitPair_pair, List.forall_mem_cons]
      refine ⟨fun has => ?_, inductionHypothesis⟩
      have long := has.length_le
      simp at long
  | case4 item next rest notPair empty inductionHypothesis =>
      exact (splitPair_ne_nil _ empty).elim
  | case5 item next rest notPair part parts split inductionHypothesis =>
      rw [split, List.forall_mem_cons] at inductionHypothesis
      rw [splitPair_cons notPair split, List.forall_mem_cons]
      refine ⟨fun has => ?_, inductionHypothesis.2⟩
      rcases List.infix_cons_iff.mp has with atHead | later
      · -- The part begins as the items do, behind the first one.
        obtain ⟨tail, whole⟩ := atHead
        obtain ⟨isFirst, others⟩ := List.cons.inj whole
        have isPart : second :: tail = part := others
        subst isPart
        have joined :=
          @intercalate_splitPair Item _ first second (next :: rest)
        rw [split, intercalate_cons_head] at joined
        exact notPair ⟨isFirst.symm, (List.cons.inj joined).1.symm⟩
      · exact inductionHypothesis.1 later

/-- Items with the pair are more than one part. -/
theorem splitPair_length_ne_one
    {items : List Item}
    (has : HasPair first second items) :
    (splitPair first second items).length ≠ 1 := by
  intro single
  obtain ⟨part, isPart⟩ := List.length_eq_one_iff.mp single
  have joined := @intercalate_splitPair Item _ first second items
  rw [isPart, List.intercalate_singleton] at joined
  have member : part ∈ splitPair first second items := by
    rw [isPart]
    exact List.mem_singleton_self part
  apply not_hasPair_of_mem_splitPair items part member
  rw [joined]
  exact has

end Pair

/-! ### Lines -/

/-- Bytes joined by ASCII bytes are decoded part by part. -/
theorem decodeUtf8Replace_intercalate
    {separator : Bytes}
    (notEmpty : separator ≠ [])
    (ascii : ∀ byte ∈ separator, byte.toNat < 0x80)
    (lines : List Bytes) :
    decodeUtf8Replace (separator.intercalate lines) =
      (decodeUtf8Replace separator).intercalate
        (lines.map decodeUtf8Replace) := by
  induction lines with
  | nil =>
      rfl
  | cons line rest inductionHypothesis =>
      cases rest with
      | nil =>
          simp
      | cons next others =>
          have before : IsBoundary line separator :=
            Or.inr fun byte member => ascii byte (List.mem_of_head? member)
          have after :
              IsBoundary (line ++ separator)
                (separator.intercalate (next :: others)) := by
            left
            intro byte member
            rw [List.getLast?_append_of_ne_nil _ notEmpty] at member
            exact ascii byte (List.mem_of_getLast? member)
          rw [List.intercalate_cons_cons, decodeUtf8Replace_append after,
            decodeUtf8Replace_append before, inductionHypothesis]
          simp only [List.map_cons, List.intercalate_cons_cons]

/-- An ASCII byte has the value of its character. -/
theorem chr_toNat_val
    {byte : UInt8}
    (ascii : byte.toNat < 0x80) :
    (chr byte.toNat).val = byte.toNat :=
  Nat.mod_eq_of_lt (Nat.lt_trans ascii (by decide))

/-- An ASCII character of a text comes from a byte of its own. -/
theorem exists_of_decodeUtf8Replace_byte
    {byte : UInt8}
    (ascii : byte.toNat < 0x80)
    {data : Bytes}
    {front back : Str}
    (decoded :
      decodeUtf8Replace data = front ++ chr byte.toNat :: back) :
    ∃ before after,
      data = before ++ byte :: after ∧
        decodeUtf8Replace before = front ∧
        decodeUtf8Replace after = back := by
  have value := chr_toNat_val ascii
  have small : (chr byte.toNat).val < 0x80 := by
    rw [value]
    exact ascii
  have split := exists_of_decodeUtf8Replace small decoded
  rw [value, UInt8.ofNat_toNat] at split
  exact split

/-- An ASCII character is in a decoded text exactly if its byte was. -/
theorem mem_decodeUtf8Replace_iff
    {byte : UInt8}
    (ascii : byte.toNat < 0x80)
    {data : Bytes} :
    chr byte.toNat ∈ decodeUtf8Replace data ↔ byte ∈ data := by
  constructor
  · intro member
    obtain ⟨front, back, decoded⟩ := List.append_of_mem member
    obtain ⟨before, after, rfl, _, _⟩ :=
      exists_of_decodeUtf8Replace_byte ascii decoded
    simp
  · intro member
    obtain ⟨before, after, rfl⟩ := List.append_of_mem member
    rw [decodeUtf8Replace_append_ascii ascii]
    simp

/-- A pair of ASCII characters comes from a pair of bytes. -/
theorem hasPair_of_decodeUtf8Replace
    {first second : UInt8}
    (firstAscii : first.toNat < 0x80)
    (secondAscii : second.toNat < 0x80)
    {data : Bytes}
    (has :
      HasPair (chr first.toNat) (chr second.toNat)
        (decodeUtf8Replace data)) :
    HasPair first second data := by
  obtain ⟨front, back, decoded⟩ := has
  rw [List.append_assoc] at decoded
  obtain ⟨before, after, rfl, _, isAfter⟩ :=
    exists_of_decodeUtf8Replace_byte firstAscii decoded.symm
  have next :
      decodeUtf8Replace after = [] ++ chr second.toNat :: back :=
    isAfter
  obtain ⟨between, rest, rfl, isBetween, _⟩ :=
    exists_of_decodeUtf8Replace_byte secondAscii next
  rw [eq_nil_of_decodeUtf8Replace isBetween]
  exact ⟨before, rest, by simp⟩

/-- An ASCII byte is decoded to its character. -/
theorem decodeUtf8Replace_singleton
    {byte : UInt8}
    (ascii : byte.toNat < 0x80) :
    decodeUtf8Replace [byte] = [chr byte.toNat] :=
  decodeUtf8Replace_append_ascii ascii [] []

/-- Two ASCII bytes are decoded to their characters. -/
theorem decodeUtf8Replace_pair
    {first second : UInt8}
    (firstAscii : first.toNat < 0x80)
    (secondAscii : second.toNat < 0x80) :
    decodeUtf8Replace [first, second] =
      [chr first.toNat, chr second.toNat] :=
  (decodeUtf8Replace_append_ascii firstAscii [] [second]).trans
    (congrArg (chr first.toNat :: ·)
      (decodeUtf8Replace_singleton secondAscii))

/-- Lines that end in a pair of ASCII bytes are decoded one by one. -/
theorem splitPair_decodeUtf8Replace
    {first second : UInt8}
    (different : chr first.toNat ≠ chr second.toNat)
    (firstAscii : first.toNat < 0x80)
    (secondAscii : second.toNat < 0x80)
    (data : Bytes) :
    splitPair (chr first.toNat) (chr second.toNat)
        (decodeUtf8Replace data) =
      (splitPair first second data).map decodeUtf8Replace := by
  have ascii : ∀ byte ∈ [first, second], byte.toNat < 0x80 := by
    simp [firstAscii, secondAscii]
  have joined :=
    decodeUtf8Replace_intercalate (List.cons_ne_nil first [second]) ascii
      (splitPair first second data)
  rw [intercalate_splitPair,
    decodeUtf8Replace_pair firstAscii secondAscii] at joined
  rw [joined]
  apply splitPair_intercalate different
  · exact mt List.map_eq_nil_iff.mp (splitPair_ne_nil data)
  · intro text member has
    obtain ⟨line, isLine, rfl⟩ := List.mem_map.mp member
    exact not_hasPair_of_mem_splitPair data line isLine
      (hasPair_of_decodeUtf8Replace firstAscii secondAscii has)

/-- No part of a list that was split has the separator. -/
theorem not_mem_of_mem_splitOn
    {Item : Type}
    [BEq Item]
    [LawfulBEq Item]
    (separator : Item)
    (items : List Item) :
    ∀ part ∈ items.splitOn separator, separator ∉ part := by
  induction items with
  | nil =>
      simp
  | cons item rest inductionHypothesis =>
      rw [List.splitOn_cons_eq_if_modifyHead]
      split
      · rw [List.forall_mem_cons]
        exact ⟨List.not_mem_nil, inductionHypothesis⟩
      · rename_i different
        cases parts : rest.splitOn separator with
        | nil =>
            exact (List.splitOn_ne_nil separator rest parts).elim
        | cons part others =>
            rw [parts, List.forall_mem_cons] at inductionHypothesis
            rw [List.modifyHead_cons, List.forall_mem_cons]
            refine ⟨fun member => ?_, inductionHypothesis.2⟩
            rcases List.mem_cons.mp member with rfl | later
            · exact different (BEq.refl separator)
            · exact inductionHypothesis.1 later

/-- Lines that end in an ASCII byte are decoded one by one. -/
theorem splitAt_decodeUtf8Replace
    {byte : UInt8}
    (ascii : byte.toNat < 0x80)
    (data : Bytes) :
    splitAt (chr byte.toNat) (decodeUtf8Replace data) =
      (data.splitOn byte).map decodeUtf8Replace := by
  have isAscii : ∀ other ∈ [byte], other.toNat < 0x80 := by
    simp [ascii]
  have joined :=
    decodeUtf8Replace_intercalate (List.cons_ne_nil byte []) isAscii
      (data.splitOn byte)
  rw [List.intercalate_splitOn, decodeUtf8Replace_singleton ascii]
    at joined
  rw [joined]
  apply splitAt_intercalate
  · exact mt List.map_eq_nil_iff.mp (List.splitOn_ne_nil byte data)
  · intro text member present
    obtain ⟨line, isLine, rfl⟩ := List.mem_map.mp member
    exact not_mem_of_mem_splitOn byte data line isLine
      ((mem_decodeUtf8Replace_iff ascii).mp present)

end PyText
