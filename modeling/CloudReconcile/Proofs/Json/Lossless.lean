import CloudReconcile.Proofs.Json.Outline
import CloudReconcile.Proofs.Json.RoundTrip
import CloudReconcile.Proofs.Json.Text

/-!
# Texts that lose nothing

A codec loses nothing if the text that it writes of a value is read as that value again.  Codecs
that give back the values that they wrote and read by the outline are such.
-/

namespace CloudReconcile
namespace Json

/-- What was written is read as it was, so different values have different texts. -/
structure Codec.Lossless {α : Type} (codec : Codec α) : Prop where
  parse_text : ∀ a, codec.parse (Text.bytes (codec.text a)) = .ok a
  text_injective : Function.Injective codec.text

/-- The codec gives back what it wrote, and reads by the outline. -/
structure Codec.Sound {α : Type} (codec : Codec α) : Prop where
  lawful : codec.Lawful
  byOutline : codec.ByOutline

namespace Codec.Sound

variable {α : Type} {codec : Codec α}

theorem read_of_outline (h : codec.Sound) {t : Tree} {a : α}
    (same : t.outline = (Tree.ofValue (codec.write a)).outline) : codec.read t = .ok a :=
  h.byOutline.read_eq same (h.lawful.read_write a)

theorem parse_text (h : codec.Sound) (a : α) :
    codec.parse (Text.bytes (codec.text a)) = .ok a := by
  obtain ⟨same, whole⟩ := Document.ofBytes_text (codec.write a)
  have read := h.read_of_outline same
  simp only [Codec.parse, Codec.text, whole, read]

theorem lossless (h : codec.Sound) : codec.Lossless where
  parse_text := h.parse_text
  text_injective a b same := by
    have read := h.parse_text a
    rw [same, h.parse_text b] at read
    exact (Except.ok.inj read).symm

theorem string : Codec.string.Sound := ⟨string_lawful, string_byOutline⟩

theorem bool : Codec.bool.Sound := ⟨bool_lawful, bool_byOutline⟩

theorem stringMap : Codec.stringMap.Sound := ⟨stringMap_lawful, stringMap_byOutline⟩

theorem choice {names : List (String × α)} {name : α → String}
    (found : ∀ a, names.lookup (name a) = some a) : (Codec.choice names name).Sound :=
  ⟨choice_lawful found, choice_byOutline names name⟩

end Codec.Sound

/-- The record gives back what it wrote, and reads by the outline. -/
structure Record.Sound {ρ α : Type} (record : Record ρ α) (get : ρ → α) : Prop where
  faithful : record.Faithful get
  byOutline : record.ByOutline

namespace Record.Sound

variable {ρ α β : Type}

theorem seq {f : Record ρ (α → β)} {x : Record ρ α} {g : ρ → α → β} {h : ρ → α}
    (hf : f.Sound g) (hx : x.Sound h) : (f <*> x).Sound fun r => g r (h r) :=
  ⟨hf.faithful.seq hx.faithful, hf.byOutline.seq hx.byOutline⟩

theorem map {f : α → β} {x : Record ρ α} {h : ρ → α} (hx : x.Sound h) :
    (f <$> x).Sound fun r => f (h r) :=
  ⟨hx.faithful.map, hx.byOutline.map⟩

theorem required {key : String} {codec : Codec α} {get : ρ → α} (h : codec.Sound) :
    (Record.required key codec get).Sound get :=
  ⟨.required h.lawful, .required h.byOutline⟩

theorem defaulted {key : String} {codec : Codec α} {value : α} {get : ρ → α} (h : codec.Sound) :
    (Record.defaulted key codec value get).Sound get :=
  ⟨.defaulted h.lawful, .defaulted h.byOutline⟩

theorem placed {key : String} {codec : Codec α} {get : ρ → Option α} (h : codec.Sound) :
    (Record.placed key codec get).Sound get :=
  ⟨.placed h.lawful, .placed h.byOutline⟩

theorem listed {key : String} {codec : Codec α} {get : ρ → List α} (h : codec.Sound) :
    (Record.listed key codec get).Sound get :=
  ⟨.listed h.lawful, .listed h.byOutline⟩

/-- All three things that a declaration can say about a property are told apart. -/
theorem field {key : String} {codec : Codec α} {get : ρ → Field α} (h : codec.Sound) :
    (Field.member key codec get).Sound get where
  faithful := .member fun r => by
    cases get r with
    | unset => rfl
    | empty => rfl
    | set a =>
        show (codec.nullable.read (.ofValue (codec.write a)) >>= _) = _
        rw [h.lawful.nullable_read_write a]
        rfl
  byOutline := .field h.byOutline

theorem codec {record : Record α α} (h : record.Sound fun a => a) (distinct : record.keys.Nodup)
    (style : Style) : (record.codec style).Sound :=
  ⟨h.faithful.codec_lawful (fun _ => rfl) distinct style, h.byOutline.codec style⟩

end Record.Sound
end Json
end CloudReconcile
