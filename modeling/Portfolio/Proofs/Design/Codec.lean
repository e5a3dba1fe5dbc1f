/-
Module: Portfolio.Proofs.Design.Codec
Purpose: Design systems come back from what is written of them.
Main exports: Design.codec_yields
-/
import Portfolio.Design.Basic
import Portfolio.Proofs.Document.RoundTrip

namespace Portfolio

open Document (Shape Codec readKeeps_part)
open Document.Codec

theorem TokenGroup.codec_yields :
    (Codec.map .value : Codec Value TokenGroup).Yields (Codec.map .value).Restores :=
  (map_yields value_yields).imp fun _ => map_restores

theorem TokenGroup.restores_empty : (Codec.map .value).Restores .empty :=
  map_restores (List.forall_mem_nil _)

/-- All token groups come back. -/
def DesignTokens.Settled (t : DesignTokens) : Prop :=
  ∀ group ∈ [t.colors, t.fonts, t.spacing, t.shadows, t.borders, t.radii, t.zIndex,
    t.transitions], (Codec.map .value).Restores group

theorem DesignTokens.sound : DesignTokens.shape.Sound where
  names_distinct := by decide
  members_commute := by simp [DesignTokens.shape]

theorem DesignTokens.codec_yields :
    DesignTokens.shape.codec.Yields DesignTokens.shape.codec.Restores := by
  refine DesignTokens.sound.yields_restores DesignTokens.Settled ?_ ?_ ?_
  · simp [DesignTokens.shape, DesignTokens.Settled, TokenGroup.restores_empty]
  · simp only [DesignTokens.shape, List.forall_mem_cons]
    refine ⟨?_, ?_, ?_, ?_, ?_, ?_, ?_, ?_, List.forall_mem_nil _⟩
    all_goals
      refine readKeeps_part TokenGroup.codec_yields fun y x hgroups hy => ?_
      simp only [DesignTokens.Settled, List.forall_mem_cons] at hgroups ⊢
      simp [hgroups, hy]
  · intro x hgroups
    simp only [DesignTokens.Settled, List.forall_mem_cons] at hgroups
    simp [DesignTokens.shape, hgroups]

theorem TextStyle.sound : TextStyle.shape.Sound where
  names_distinct := by decide
  members_commute := by simp [TextStyle.shape]

theorem TextStyle.codec_yields :
    TextStyle.shape.codec.Yields TextStyle.shape.codec.Restores := by
  refine TextStyle.sound.yields_restores
    (fun x => ∀ v ∈ [x.fontSize, x.fontWeight, x.lineHeight], Codec.value.Restores v) ?_ ?_ ?_
  · have hnull : Codec.value.Restores .null := value_restores (by decide)
    simp [TextStyle.shape, hnull]
  · simp +contextual [TextStyle.shape, readKeeps_part value_yields]
  · intro x hvalues
    simp only [List.forall_mem_cons] at hvalues
    simp [TextStyle.shape, hvalues]

theorem Typography.sound : Typography.shape.Sound where
  names_distinct := by decide
  members_commute := by simp [Typography.shape]

theorem Typography.codec_yields :
    Typography.shape.codec.Yields Typography.shape.codec.Restores := by
  have hstyles : (Codec.map TextStyle.shape.codec).Yields
      (Codec.map TextStyle.shape.codec).Restores :=
    (map_yields TextStyle.codec_yields).imp fun _ => map_restores
  refine Typography.sound.yields_restores
    (fun x => (Codec.map TextStyle.shape.codec).Restores x.styles) ?_ ?_ ?_
  · exact map_restores (List.forall_mem_nil _)
  · simp [Typography.shape, readKeeps_part hstyles]
  · intro x hstyle
    simp [Typography.shape, hstyle]

theorem Spacing.sound : Spacing.shape.Sound where
  names_distinct := by decide
  members_commute := by simp [Spacing.shape]

@[simp] theorem Spacing.codec_restores (s : Spacing) : Spacing.shape.codec.Restores s := by
  apply Spacing.sound.restores
  simp [Spacing.shape]

theorem Palette.sound : Palette.shape.Sound where
  names_distinct := by decide
  members_commute := by simp [Palette.shape]

@[simp] theorem Palette.codec_restores (p : Palette) : Palette.shape.codec.Restores p := by
  apply Palette.sound.restores
  simp [Palette.shape]

theorem Design.sound : Design.shape.Sound where
  names_distinct := by decide
  members_commute := by simp [Design.shape]

theorem Design.codec_yields : Design.codec.Yields Design.codec.Restores := by
  have htokens : Design.codec.Yields fun x => DesignTokens.shape.codec.Restores x.tokens := by
    refine Shape.yields (DesignTokens.codec_yields (.map []) {} rfl) ?_
    simp [Design.shape, readKeeps_part DesignTokens.codec_yields]
  have htypography : Design.codec.Yields
      fun x => Typography.shape.codec.Restores x.typography := by
    refine Shape.yields (Typography.codec_yields (.map []) {} rfl) ?_
    simp [Design.shape, readKeeps_part Typography.codec_yields]
  have hbreakpoints : Design.codec.Yields fun x => (Codec.map .value).Restores x.breakpoints := by
    refine Shape.yields TokenGroup.restores_empty ?_
    simp [Design.shape, readKeeps_part TokenGroup.codec_yields]
  intro tree x hread
  apply Design.sound.restores
  simp [Design.shape, htokens tree x hread, htypography tree x hread, hbreakpoints tree x hread]

end Portfolio
