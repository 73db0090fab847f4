import ClusterLog.Proofs.Layout.Pieces
import ClusterLog.Proofs.Layout.Tokens

/-!
# Layouts of fields

A layout that places a level, a date and possibly the thread name, in any order
and with one space behind each of them, and the message at its end.
-/

namespace ClusterLog.Layout

/-- What such a layout places in front of the message. -/
inductive Slot where
  /-- The level, possibly filled up to five characters. -/
  | level (padded : Bool)
  /-- The date, by the long or the short name of the conversion. -/
  | date (long : Bool)
  /-- The thread name in brackets. -/
  | thread
deriving DecidableEq

namespace Slot

/-- How a slot is written. -/
def written : Slot → String
  | level true => "%-5level"
  | level false => "%level"
  | date true => "%date\x7bISO8601\x7d"
  | date false => "%d\x7bISO8601\x7d"
  | thread => "[%thread]"

/-- What a slot is read as. -/
def token : Slot → Token
  | level _ => .field .level
  | date _ => .field .timestamp
  | thread => .thread

theorem mem_placeholders (slot : Slot) :
    (slot.written, slot.token) ∈ placeholders := by
  cases slot with
  | level padded => cases padded <;> decide
  | date long => cases long <;> decide
  | thread => decide

/-- The field that a slot places. -/
def field? : Slot → Option Field
  | level _ => some .level
  | date _ => some .timestamp
  | thread => none

/-- The piece of a slot, behind the first places of `count` other fields. -/
def piece (count : Nat) : Slot → Piece
  | level _ => .first .level (count + 1)
  | date _ => .first .timestamp (count + 1)
  | thread => .thread

theorem token_of_field? {slot : Slot} {field : Field}
    (places : slot.field? = some field) : slot.token = .field field := by
  cases slot <;> cases places <;> rfl

theorem piecesFrom_token {slot : Slot} {seen : List Field}
    (fresh : ∀ field ∈ slot.field?, field ∉ seen) (tokens : List Token) :
    piecesFrom seen (slot.token :: .space :: tokens) =
      slot.piece seen.length :: .space ::
        piecesFrom (slot.field?.toList ++ seen) tokens := by
  cases slot with
  | level padded =>
      have new : .level ∉ seen := fresh .level rfl
      simp [token, piece, field?, piecesFrom, new]
  | date long =>
      have new : .timestamp ∉ seen := fresh .timestamp rfl
      simp [token, piece, field?, piecesFrom, new]
  | thread => rfl

end Slot

/-- The placeholders for a message. -/
inductive MessageForm where
  | plain
  | withLine
  | withMethod
deriving DecidableEq

/-- How a message is placed. -/
def MessageForm.written : MessageForm → String
  | plain => "%msg%n"
  | withLine => "%F:%L - %msg%n"
  | withMethod => "%F:%L %M %msg%n"

theorem MessageForm.mem_placeholders (form : MessageForm) :
    (form.written, .field .message) ∈ placeholders := by
  cases form <;> decide

/-- A layout with one place for the level, one for the date and at most one for
the thread name. -/
structure FieldLayout where
  slots : List Slot
  message : MessageForm
  once : (slots.map Slot.token).Nodup
  has_level : ∃ padded, .level padded ∈ slots
  has_date : ∃ long, .date long ∈ slots

namespace FieldLayout

/-- The text of slots with a space behind each of them, and of what follows. -/
def charsFrom (message : MessageForm) (slots : List Slot) : List Char :=
  slots.foldr (fun slot rest => slot.written.toList ++ ' ' :: rest)
    message.written.toList

/-- The tokens of slots and of what follows. -/
def tokensFrom (slots : List Slot) : List Token :=
  slots.foldr (fun slot rest => slot.token :: .space :: rest)
    [.field .message]

theorem tokens_charsFrom (message : MessageForm) (slots : List Slot) :
    tokens (charsFrom message slots) = tokensFrom slots := by
  induction slots with
  | nil =>
      have last := tokens_placeholder message.mem_placeholders []
      rwa [List.append_nil] at last
  | cons slot slots ih =>
      have first := tokens_placeholder slot.mem_placeholders
        (' ' :: charsFrom message slots)
      rw [tokens_space, ih] at first
      exact first

/-- The description of a layout. -/
def text (layout : FieldLayout) : String :=
  String.ofList (charsFrom layout.message layout.slots)

/-- The pieces of a layout. -/
def pieces (layout : FieldLayout) : List Piece :=
  piecesFrom [] (tokensFrom layout.slots)

/-- The grammar of the pieces of a layout. -/
def grammar (layout : FieldLayout) : Grammar :=
  .ofPieces layout.pieces

/-- All such layouts but the stock one are compiled to the grammar of their
pieces. -/
theorem compile_text {layout : FieldLayout} (other : layout.text ≠ stock) :
    compile layout.text = layout.grammar := by
  rw [compile, if_neg (by simpa using other), text, String.toList_ofList,
    tokens_charsFrom]
  rfl

/-- A marker in front prints nothing, and changes nothing either. -/
theorem compile_marker (layout : FieldLayout) :
    compile ("%marker" ++ layout.text) = layout.grammar := by
  have known : ("%marker", .nothing) ∈ placeholders := by decide
  have other : "%marker" ++ layout.text ≠ stock := by
    intro same
    have chars := congrArg String.toList same
    simp [stock, String.toList_append] at chars
  rw [compile, if_neg (by simpa using other), String.toList_append,
    tokens_placeholder known, text, String.toList_ofList, tokens_charsFrom]
  rfl

/-! ## Positions -/

theorem positions_grammar (layout : FieldLayout) :
    layout.grammar.positions =
      numbered [] ((tokensFrom layout.slots).filterMap (·.field?)) :=
  positions_piecesFrom [] _

theorem nodup_fields (layout : FieldLayout) :
    (layout.grammar.positions.map Prod.fst).Nodup := by
  rw [positions_grammar]
  exact nodup_fields_numbered _ _

theorem nodup_ordinals (layout : FieldLayout) :
    (layout.grammar.positions.map Prod.snd).Nodup := by
  rw [positions_grammar]
  exact nodup_ordinals_numbered _ _

theorem token_mem_tokensFrom {slots : List Slot} {slot : Slot}
    (member : slot ∈ slots) : slot.token ∈ tokensFrom slots := by
  induction slots with
  | nil => cases member
  | cons first slots ih =>
      rw [tokensFrom, List.foldr_cons, ← tokensFrom]
      rcases List.mem_cons.mp member with rfl | later
      · exact List.mem_cons_self
      · exact List.mem_cons_of_mem _ (List.mem_cons_of_mem _ (ih later))

theorem message_mem_tokensFrom (slots : List Slot) :
    .field .message ∈ tokensFrom slots := by
  induction slots with
  | nil => exact List.mem_cons_self
  | cons slot slots ih =>
      exact List.mem_cons_of_mem _ (List.mem_cons_of_mem _ ih)

/-- Each field has a place. -/
theorem mem_fields (layout : FieldLayout) (field : Field) :
    field ∈ layout.grammar.positions.map Prod.fst := by
  have member : .field field ∈ tokensFrom layout.slots := by
    cases field with
    | level =>
        rcases layout.has_level with ⟨padded, inside⟩
        exact token_mem_tokensFrom inside
    | timestamp =>
        rcases layout.has_date with ⟨long, inside⟩
        exact token_mem_tokensFrom inside
    | message => exact message_mem_tokensFrom layout.slots
  rw [positions_grammar, mem_numbered_iff]
  exact ⟨List.mem_filterMap.mpr ⟨.field field, member, rfl⟩, List.not_mem_nil⟩

end FieldLayout

end ClusterLog.Layout
