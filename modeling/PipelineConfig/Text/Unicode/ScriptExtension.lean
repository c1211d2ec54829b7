/-!
# Script extensions

The scripts of the code points that are used with several scripts, or with another one than
their own.
-/

namespace PipelineConfig.Text.Unicode

/-- Runs of code points with the same scripts. A run is given by the short names
of the scripts one after the other and its length, unless it is one. A hyphen stands for code
points that are used with their own script only. -/
def scriptExtensionRuns : String :=
  "-:183 AvstCariCoptDuplElbaGeorGlagGongGothGrekHaniLatnLydiMahjPermShaw -:516
    BengCyrlDevaLatnLisuThaiToto -:10 BopoLatn - BopoLatn:3 - LatnLisu -:9 LatnThai - BopoLatn
    -:38 CherCoptCyrlGrekLatnPermSunuTale CherCyrlGrekLatnOsgeSunuTaleTodr CherCyrlLatnTfng
    GlagLatnSunuSyrcThai AghbCherCoptCyrlGothGrekLatnOsgeSyrcTfngTodr CoptElbaGlagGothKanaLatn
    CyrlGrekLatnPermTfng CoptDuplHebrLatnPermSyrcTaleTfngTodr
    ArmnCyrlDuplGothGrekHebrLatnPermSyrcTaleTfng LatnTfng DuplLatnSyrc CherCyrlLatnOsge
    CherLatnTale LatnSunu EthiLatn - LatnSunu CyrlLatnTodr - GrekLatnPermTodr -:15
    CherDuplKanaLatnSyrcTfng CherDuplLatnSyrc LatnSyrc -:7 LatnSunuSyrc LatnSyrc - CherLatnSyrc
    AghbCherGothLatnSunuSyrcThai -:16 Grek -:2 Grek -:18 LatnOsge -:5 AghbLatnTodr -:4 Latn:13
    -:4 CoptGrek:2 -:269 CyrlPerm CyrlGlag CyrlLatn:2 CyrlGlag -:257 ArmnGeorGlag -:130
    ArabGaraNkooRohgSyrcThaaYezi -:14 ArabGaraNkooRohgSyrcThaaYezi ArabSyrcThaa -:2
    AdlmArabGaraNkooRohgSyrcThaaYezi -:32 AdlmArabMandManiOugrPhlpRohgSogdSyrc -:10 ArabSyrc:11
    -:10 ArabThaaYezi:10 -:6 ArabSyrc -:99 ArabRohg -:636
    BengDevaGranGujrGuruKndaLatnMlymNandNewaOryaShrdTamlTeluTirh
    BengDevaGranGujrGuruKndaLatnMlymNewaOryaTamlTeluTirh -:17
    BengDevaDogrGongGonmGranGujrGuruKndaMahjMlymNandOnaoOryaSindSinhSyloTakrTamlTeluTirh
    BengDevaDogrGongGonmGranGujrGukhGuruKndaLimbMahjMlymNandOnaoOryaSindSinhSyloTakrTamlTeluTirh
    DevaDogrKthiMahj:10 -:118 BengCakmSylo:10 -:118 GuruMult:10 -:118 GujrKhoj:10 -:246
    GranTaml:14 -:242 KndaNandTutg:10 -:848 CakmMymrTale:10 -:177 GeorGlagLatn -:1519 Runr:3
    -:71 BuhdHanoTagbTglg:2 -:203 MongPhag:2 - MongPhag -:1226 BengDevaGranKnda Deva
    BengDevaGranKnda DevaGranKnda Deva BengDevaNewaTeluTirh BengDevaTelu DevaNewaShrd
    BengDevaNewaTelu DevaShrd DevaKndaMlymOryaTamlTelu Deva DevaShrd:2 Deva:2 DevaShrd BengDeva
    DevaNewaTirh Deva:6 DevaNandNewa BengDevaShrd DevaNewa Deva BengDevaNewaShrd Deva:4
    BengDevaGranKndaMlymNandOryaSinhTeluTirhTutg DevaGran DevaGranKndaTutg BengDeva:2 Beng
    DevaGran:2 Nand -:197 Grek:2 -:54 CyrlLatnSyrc - Syrc -:564 LatnMongPhag -:31 AdlmArab -:10
    CariGeorGlagHungLyciOrkh -:2 CariGrekHungMero -:146 DevaGranLatn -:3366 CoptLatn -:24
    AvstOrkh AvstCariGeorHungKthiLydiSamr -:10 Dupl -:4 AdlmArabHung - CyrlGlag -:428
    HaniTang:16 - BopoHangHaniHiraKanaMongYiii BopoHangHaniHiraKanaMongPhagYiii
    BopoHangHaniHiraKana -:2 Hani - BopoHangHaniHiraKanaMongTibtYiii:2
    BopoHangHaniHiraKanaLisuMongTibtYiii:2 BopoHangHaniHiraKanaYiii:6 - BopoHangHaniHiraKana
    BopoHangHaniHiraKanaYiii:8 BopoHangHaniHiraKana:4 -:10 BopoHani:4 -:2 BopoHangHaniHiraKana
    HiraKana:5 - BopoHangHaniHiraKana -:4 HaniHiraKana:2 Hani:2 -:89 HiraKana:4 -:3 HiraKana
    -:90 BopoHangHaniHiraKanaYiii HiraKana -:147 Hani:16 -:32 Hani:38 -:9 HaniTang -:48 Hani:40
    -:56 Hani:49 -:15 Hani:12 -:51 Hani -:88 Hani:25 -:10 Hani:5 -:96 Hani:31 -:29296 CyrlGlag
    -:144 HaniLatn:8 -:296 DevaDogrGujrGuruKhojKndaKthiMahjMlymModiNandShrdSindTakrTirhTutg:3
    DevaDogrGujrGuruKhojKndaKthiMahjModiNandShrdSindTakrTirhTutg:3
    DevaDogrGujrGuruKhojKthiMahjModiSindTakrTirh:2
    DevaDogrGujrGuruKhojKthiMahjModiShrdSindTakrTirh
    DevaDogrGujrGuruKhojKthiMahjModiSindTakrTirh -:183 BengDevaTutg - DevaTaml -:58 KaliLatnMymr
    -:160 BugiJava -:21358 ArabNkoo:2 -:178 ArabThaa -:10 ArabThaa -:71 BopoHangHaniHiraKana:2
    -:282 BopoHangHaniHiraKanaYiii:5 -:10 HiraKana -:45 HiraKana:2 -:352 CpmnCprtLinb:2 CprtLinb
    -:4 CprtLinaLinb:45 -:3 CprtLinb:9 -:416 ArabCopt:28 -:2038 ManiOugr -:2062 GranTaml -
    GranTaml -:55 GranTaml:2 -:3219 GranTaml:2 - GranTaml -:40140 Dupl:4 -:5820 Hani:18 -:7902
    Hani:2 -:986542"

end PipelineConfig.Text.Unicode
