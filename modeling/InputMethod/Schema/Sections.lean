import InputMethod.Schema.Basic
import InputMethod.Filter.Ranking

/-! # Option tables of a schema

The records of options that filters read from their tables of a schema, with their defaults and
how each is read from TOML (`Toml.Decoder.record`): the simplifier's, the ranking filter's and
the grammar's.
-/

namespace InputMethod

/-- Options of the simplifier filter. -/
structure SimplifierOptions where
  conversionConfig : String := "t2s.json"
  optionName : String := "simplification"
  tips : String := ""
  showInComment : Bool := false
  inheritComment : Bool := false
  commentFormat : List String := []
  random : Bool := false
  excludedTypes : List String := []

/-- Reads the simplifier's table; `tip` is another name of `tips`. -/
def SimplifierOptions.decoder : Toml.Decoder SimplifierOptions :=
  Toml.Decoder.record "SimplifierOptions" [
    .of ["opencc_config"] Toml.Decoder.string (fun v o => { o with conversionConfig := v }),
    .of ["option_name"] Toml.Decoder.string (fun v o => { o with optionName := v }),
    .of ["tips", "tip"] Toml.Decoder.string (fun v o => { o with tips := v }),
    .of ["show_in_comment"] Toml.Decoder.bool (fun v o => { o with showInComment := v }),
    .of ["inherit_comment"] Toml.Decoder.bool (fun v o => { o with inheritComment := v }),
    .of ["comment_format"] Toml.Decoder.strings (fun v o => { o with commentFormat := v }),
    .of ["random"] Toml.Decoder.bool (fun v o => { o with random := v }),
    .of ["excluded_types"] Toml.Decoder.strings (fun v o => { o with excludedTypes := v })]
    {}

/-- Reads the ranking filter's table. -/
def RankingOptions.decoder : Toml.Decoder RankingOptions :=
  Toml.Decoder.record "RankingOptions" [
    .of ["contextual_ranking"] Toml.Decoder.bool (fun v o => { o with enabled := v }),
    .of ["max_rerank_candidates"] (Toml.Decoder.unsigned "usize") (fun v o => { o with maxCandidates := v }),
    .of ["min_input_length"] (Toml.Decoder.unsigned "usize") (fun v o => { o with minInputLength := v }),
    .of ["debounce_delay_ms"] (Toml.Decoder.unsigned "u64") (fun v o => { o with debounceMs := v })]
    {}

/-- Options of the grammar that scores candidates in context. -/
structure GrammarOptions where
  model : Option String := none
  weight : Float := 1.0
  cacheSize : Nat := 1024

/-- Reads the grammar's table. -/
def GrammarOptions.decoder : Toml.Decoder GrammarOptions :=
  Toml.Decoder.record "GrammarOptions" [
    .of ["model"] (Toml.Decoder.optional Toml.Decoder.path) (fun v o => { o with model := v }),
    .of ["weight"] Toml.Decoder.float (fun v o => { o with weight := v }),
    .of ["cache_size"] (Toml.Decoder.unsigned "usize") (fun v o => { o with cacheSize := v })]
    {}

end InputMethod
