/-!
# Boundaries of graphemes

The role of every code point at the boundaries of user-perceived characters.
-/

namespace PipelineConfig.Text.Unicode

/-- Runs of code points with the same role. A run is given by the short name of the role and its
length, unless it is one. -/
def graphemeRuns : String :=
  "CN:10 LF CN:2 CR CN:18 XX:95 CN:33 XX:13 CN XX:594 EX:112 XX:275 EX:7 XX:263 EX:45 XX EX XX
    EX:2 XX EX:2 XX EX XX:56 PP:6 XX:10 EX:11 XX CN XX:46 EX:21 XX:16 EX XX:101 EX:7 PP XX EX:6
    XX:2 EX:2 XX EX:4 XX:33 PP XX EX XX:30 EX:27 XX:91 EX:11 XX:58 EX:9 XX:9 EX XX:24 EX:4 XX
    EX:9 XX EX:3 XX EX:5 XX:43 EX:3 XX:52 PP:2 XX:5 EX:9 XX:42 EX:24 PP EX:32 SM XX:54 EX SM EX
    XX SM:3 EX:8 SM:4 EX SM:2 XX EX:7 XX:10 EX:2 XX:29 EX SM:2 XX:56 EX XX EX SM:2 EX:4 XX:2
    SM:2 XX:2 SM:2 EX XX:9 EX XX:10 EX:2 XX:26 EX XX:2 EX:2 SM XX:56 EX XX SM:3 EX:2 XX:4 EX:2
    XX:2 EX:3 XX:3 EX XX:30 EX:2 XX:3 EX XX:11 EX:2 SM XX:56 EX XX SM:3 EX:5 XX EX:2 SM XX SM:2
    EX XX:20 EX:2 XX:22 EX:6 XX EX SM:2 XX:56 EX XX EX:2 SM EX:4 XX:2 SM:2 XX:2 SM:2 EX XX:7
    EX:3 XX:10 EX:2 XX:30 EX XX:59 EX SM EX SM:2 XX:3 SM:3 XX SM:3 EX XX:9 EX XX:40 EX SM:3 EX
    XX:55 EX XX EX:3 SM:4 XX EX:3 XX EX:4 XX:7 EX:2 XX:11 EX:2 XX:29 EX SM:2 XX:56 EX XX SM EX:2
    SM EX SM:2 XX EX:3 XX EX:4 XX:7 EX:2 XX:11 EX:2 XX:15 SM XX:12 EX:2 SM:2 XX:55 EX:2 XX EX
    SM:2 EX:4 XX SM:3 XX SM:3 EX PP XX:8 EX XX:10 EX:2 XX:29 EX SM:2 XX:70 EX XX:4 EX SM:2 EX:3
    XX EX XX SM:7 EX XX:18 SM:2 XX:61 EX XX SM EX:7 XX:12 EX:8 XX:98 EX XX SM EX:9 XX:11 EX:7
    XX:73 EX:2 XX:27 EX XX EX XX EX XX:4 SM:2 XX:49 EX:14 SM EX:5 XX EX:2 XX:5 EX:11 XX EX:36
    XX:9 EX XX:102 EX:4 SM EX:6 XX EX:2 SM:2 EX:2 XX:23 SM:2 EX:2 XX:4 EX:3 XX:16 EX:4 XX:13 EX
    XX SM EX:2 XX:6 EX XX:15 EX XX:98 L:96 V:72 T:88 XX:349 EX:3 XX:946 EX:4 XX:28 EX:3 XX:29
    EX:2 XX:30 EX:2 XX:64 EX:2 SM EX:7 SM:8 EX SM:2 EX:11 XX:9 EX XX:45 EX:3 CN EX XX:117 EX:2
    XX:34 EX XX:118 EX:3 SM:4 EX:2 SM:3 XX:4 SM:2 EX SM:6 EX:3 XX:219 EX:2 SM:2 EX XX:57 SM EX
    SM EX:7 XX EX XX EX XX:2 EX:8 SM:6 EX:10 XX:2 EX XX:48 EX:31 XX:49 EX:4 SM XX:47 EX:10 SM:4
    EX:3 XX:38 EX:9 XX:12 EX:2 SM XX:30 SM EX:4 SM:2 EX:6 XX:56 EX SM EX:2 SM:3 EX SM EX:5 XX:48
    SM:8 EX:8 SM:2 EX:2 XX:152 EX:3 XX EX:13 SM EX:7 XX:4 EX XX:6 EX XX:2 SM EX:2 XX:198 EX:64
    XX:523 CN EX ZWJ CN:2 XX:24 CN:7 XX:49 CN:16 XX:96 EX:33 XX:3070 EX:3 XX:141 EX XX:96 EX:32
    XX:554 EX:6 XX:105 EX:2 XX:30164 EX:4 XX EX:10 XX:32 EX:2 XX:80 EX:2 XX:272 EX XX:3 EX XX:4
    EX XX:23 SM:2 EX:2 SM XX:4 EX XX:83 SM:2 XX:50 SM:16 EX:2 XX:26 EX:18 XX:13 EX XX:38 EX:8
    XX:25 EX:11 SM EX XX:12 L:29 XX:3 EX:3 SM XX:47 EX SM:2 EX:4 SM:2 EX:2 SM:2 EX XX:36 EX
    XX:67 EX:6 SM:2 EX:2 SM:2 EX:2 XX:12 EX XX:8 EX SM XX:46 EX XX:51 EX XX EX:3 XX:2 EX:2 XX:5
    EX:2 XX EX XX:41 SM EX:2 SM:2 XX:5 SM EX XX:236 SM:2 EX SM:2 EX SM:2 XX SM EX XX:18 LV
    LVT:27 LV LVT:27 LV LVT:27 LV LVT:27 LV LVT:27 LV LVT:27 LV LVT:27 LV LVT:27 LV LVT:27 LV
    LVT:27 LV LVT:27 LV LVT:27 LV LVT:27 LV LVT:27 LV LVT:27 LV LVT:27 LV LVT:27 LV LVT:27 LV
    LVT:27 LV LVT:27 LV LVT:27 LV LVT:27 LV LVT:27 LV LVT:27 LV LVT:27 LV LVT:27 LV LVT:27 LV
    LVT:27 LV LVT:27 LV LVT:27 LV LVT:27 LV LVT:27 LV LVT:27 LV LVT:27 LV LVT:27 LV LVT:27 LV
    LVT:27 LV LVT:27 LV LVT:27 LV LVT:27 LV LVT:27 LV LVT:27 LV LVT:27 LV LVT:27 LV LVT:27 LV
    LVT:27 LV LVT:27 LV LVT:27 LV LVT:27 LV LVT:27 LV LVT:27 LV LVT:27 LV LVT:27 LV LVT:27 LV
    LVT:27 LV LVT:27 LV LVT:27 LV LVT:27 LV LVT:27 LV LVT:27 LV LVT:27 LV LVT:27 LV LVT:27 LV
    LVT:27 LV LVT:27 LV LVT:27 LV LVT:27 LV LVT:27 LV LVT:27 LV LVT:27 LV LVT:27 LV LVT:27 LV
    LVT:27 LV LVT:27 LV LVT:27 LV LVT:27 LV LVT:27 LV LVT:27 LV LVT:27 LV LVT:27 LV LVT:27 LV
    LVT:27 LV LVT:27 LV LVT:27 LV LVT:27 LV LVT:27 LV LVT:27 LV LVT:27 LV LVT:27 LV LVT:27 LV
    LVT:27 LV LVT:27 LV LVT:27 LV LVT:27 LV LVT:27 LV LVT:27 LV LVT:27 LV LVT:27 LV LVT:27 LV
    LVT:27 LV LVT:27 LV LVT:27 LV LVT:27 LV LVT:27 LV LVT:27 LV LVT:27 LV LVT:27 LV LVT:27 LV
    LVT:27 LV LVT:27 LV LVT:27 LV LVT:27 LV LVT:27 LV LVT:27 LV LVT:27 LV LVT:27 LV LVT:27 LV
    LVT:27 LV LVT:27 LV LVT:27 LV LVT:27 LV LVT:27 LV LVT:27 LV LVT:27 LV LVT:27 LV LVT:27 LV
    LVT:27 LV LVT:27 LV LVT:27 LV LVT:27 LV LVT:27 LV LVT:27 LV LVT:27 LV LVT:27 LV LVT:27 LV
    LVT:27 LV LVT:27 LV LVT:27 LV LVT:27 LV LVT:27 LV LVT:27 LV LVT:27 LV LVT:27 LV LVT:27 LV
    LVT:27 LV LVT:27 LV LVT:27 LV LVT:27 LV LVT:27 LV LVT:27 LV LVT:27 LV LVT:27 LV LVT:27 LV
    LVT:27 LV LVT:27 LV LVT:27 LV LVT:27 LV LVT:27 LV LVT:27 LV LVT:27 LV LVT:27 LV LVT:27 LV
    LVT:27 LV LVT:27 LV LVT:27 LV LVT:27 LV LVT:27 LV LVT:27 LV LVT:27 LV LVT:27 LV LVT:27 LV
    LVT:27 LV LVT:27 LV LVT:27 LV LVT:27 LV LVT:27 LV LVT:27 LV LVT:27 LV LVT:27 LV LVT:27 LV
    LVT:27 LV LVT:27 LV LVT:27 LV LVT:27 LV LVT:27 LV LVT:27 LV LVT:27 LV LVT:27 LV LVT:27 LV
    LVT:27 LV LVT:27 LV LVT:27 LV LVT:27 LV LVT:27 LV LVT:27 LV LVT:27 LV LVT:27 LV LVT:27 LV
    LVT:27 LV LVT:27 LV LVT:27 LV LVT:27 LV LVT:27 LV LVT:27 LV LVT:27 LV LVT:27 LV LVT:27 LV
    LVT:27 LV LVT:27 LV LVT:27 LV LVT:27 LV LVT:27 LV LVT:27 LV LVT:27 LV LVT:27 LV LVT:27 LV
    LVT:27 LV LVT:27 LV LVT:27 LV LVT:27 LV LVT:27 LV LVT:27 LV LVT:27 LV LVT:27 LV LVT:27 LV
    LVT:27 LV LVT:27 LV LVT:27 LV LVT:27 LV LVT:27 LV LVT:27 LV LVT:27 LV LVT:27 LV LVT:27 LV
    LVT:27 LV LVT:27 LV LVT:27 LV LVT:27 LV LVT:27 LV LVT:27 LV LVT:27 LV LVT:27 LV LVT:27 LV
    LVT:27 LV LVT:27 LV LVT:27 LV LVT:27 LV LVT:27 LV LVT:27 LV LVT:27 LV LVT:27 LV LVT:27 LV
    LVT:27 LV LVT:27 LV LVT:27 LV LVT:27 LV LVT:27 LV LVT:27 LV LVT:27 LV LVT:27 LV LVT:27 LV
    LVT:27 LV LVT:27 LV LVT:27 LV LVT:27 LV LVT:27 LV LVT:27 LV LVT:27 LV LVT:27 LV LVT:27 LV
    LVT:27 LV LVT:27 LV LVT:27 LV LVT:27 LV LVT:27 LV LVT:27 LV LVT:27 LV LVT:27 LV LVT:27 LV
    LVT:27 LV LVT:27 LV LVT:27 LV LVT:27 LV LVT:27 LV LVT:27 LV LVT:27 LV LVT:27 LV LVT:27 LV
    LVT:27 LV LVT:27 LV LVT:27 LV LVT:27 LV LVT:27 LV LVT:27 LV LVT:27 LV LVT:27 LV LVT:27 LV
    LVT:27 LV LVT:27 LV LVT:27 LV LVT:27 LV LVT:27 LV LVT:27 LV LVT:27 LV LVT:27 LV LVT:27 LV
    LVT:27 LV LVT:27 LV LVT:27 LV LVT:27 LV LVT:27 LV LVT:27 LV LVT:27 LV LVT:27 LV LVT:27 LV
    LVT:27 LV LVT:27 LV LVT:27 LV LVT:27 LV LVT:27 LV LVT:27 LV LVT:27 LV LVT:27 LV LVT:27 LV
    LVT:27 LV LVT:27 LV LVT:27 LV LVT:27 LV LVT:27 LV LVT:27 LV LVT:27 LV LVT:27 LV LVT:27 LV
    LVT:27 LV LVT:27 LV LVT:27 LV LVT:27 LV LVT:27 LV LVT:27 LV LVT:27 LV LVT:27 LV LVT:27 LV
    LVT:27 LV LVT:27 LV LVT:27 LV LVT:27 LV LVT:27 LV LVT:27 LV LVT:27 LV LVT:27 LV LVT:27 LV
    LVT:27 LV LVT:27 LV LVT:27 LV LVT:27 LV LVT:27 LV LVT:27 LV LVT:27 LV LVT:27 LV LVT:27 LV
    LVT:27 LV LVT:27 LV LVT:27 LV LVT:27 LV LVT:27 LV LVT:27 LV LVT:27 LV LVT:27 LV LVT:27 LV
    LVT:27 LV LVT:27 LV LVT:27 LV LVT:27 LV LVT:27 LV LVT:27 LV LVT:27 LV LVT:27 LV LVT:27 LV
    LVT:27 LV LVT:27 LV LVT:27 LV LVT:27 LV LVT:27 LV LVT:27 LV LVT:27 LV LVT:27 LV LVT:27 LV
    LVT:27 LV LVT:27 LV LVT:27 LV LVT:27 LV LVT:27 LV LVT:27 LV LVT:27 LV LVT:27 LV LVT:27 LV
    LVT:27 LV LVT:27 LV LVT:27 XX:12 V:23 XX:4 T:49 XX:8994 EX XX:737 EX:16 XX:16 EX:16 XX:207
    CN XX:158 EX:2 XX:80 CN:12 XX:513 EX XX:226 EX XX:149 EX:5 XX:1670 EX:3 XX EX:2 XX:5 EX:4
    XX:40 EX:3 XX:4 EX XX:165 EX:2 XX:573 EX:4 XX:65 EX:5 XX:317 EX:2 XX:79 EX:4 XX:70 EX:11
    XX:49 EX:4 XX:122 SM EX SM XX:53 EX:15 XX:41 EX XX:2 EX:2 XX:10 EX:3 SM XX:45 SM:3 EX:4 SM:2
    EX:2 XX:2 PP XX:4 EX XX:10 PP XX:50 EX:3 XX:36 EX:5 SM EX:8 XX:16 SM:2 XX:44 EX XX:12 EX:2
    SM XX:48 SM:3 EX:9 SM EX XX PP:2 XX:5 EX:4 XX SM EX XX:92 SM:3 EX:3 SM:2 EX:4 XX:6 EX XX:2
    EX XX:157 EX SM:3 EX:8 XX:21 EX:2 SM:2 XX:55 EX:2 XX EX SM EX SM:4 XX:2 SM:2 XX:2 SM:2 EX
    XX:9 EX XX:10 SM:2 XX:2 EX:7 XX:3 EX:5 XX:67 EX SM:2 EX:6 XX EX XX:2 EX XX EX:3 SM XX SM:2
    EX:3 PP EX XX:14 EX:2 XX:82 SM:3 EX:8 SM:2 EX:3 SM EX XX:23 EX XX:81 EX SM:2 EX:6 SM EX SM:2
    EX SM EX:2 SM EX:2 XX:235 EX SM:2 EX:4 XX:2 SM:4 EX:2 SM EX:2 XX:27 EX:2 XX:82 SM:3 EX:8
    SM:2 EX SM EX:2 XX:106 EX SM EX SM:2 EX:8 XX:101 EX SM EX XX:2 EX:4 SM EX:5 XX:256 SM:3 EX:9
    SM EX:2 XX:245 EX SM:5 XX SM:2 XX:2 EX:4 PP SM PP SM EX XX:141 SM:3 EX:4 XX:2 EX:2 SM:4 EX
    XX:3 SM XX:28 EX:10 XX:40 EX:6 SM PP EX:4 XX:8 EX XX:9 EX:6 SM:2 EX:3 XX:40 PP:6 EX:13 SM
    EX:2 XX:405 SM EX:7 XX EX:6 SM EX XX:82 EX:22 XX SM EX:7 SM EX:2 SM EX:2 XX:122 EX:6 XX:3 EX
    XX EX:2 XX EX:7 PP EX XX:66 SM:5 XX EX:2 XX SM:2 EX SM EX XX:347 EX:2 SM:2 XX:9 EX:2 PP SM
    XX:48 SM:2 EX:5 XX:3 SM:2 EX:3 XX:23 EX XX:5333 CN:16 EX XX:6 EX:15 XX:11464 EX:12 SM:3 EX:3
    XX:2496 EX:5 XX:59 EX:7 XX:556 V XX:3 V:4 XX:484 EX XX SM:55 XX:7 EX:4 XX:81 EX XX:11 EX:2
    XX:19627 EX:2 XX CN:4 XX:4700 EX:46 XX:2 EX:23 XX:542 EX:5 XX:3 EX:6 CN:8 EX:8 XX:2 EX:7
    XX:30 EX:4 XX:148 EX:3 XX:1979 EX:55 XX:4 EX:50 XX:8 EX XX:14 EX XX:22 EX:5 XX EX:15 XX:1360
    EX:7 XX EX:17 XX:2 EX:7 XX EX:2 XX EX:5 XX:100 EX XX:160 EX:7 XX:375 EX XX:61 EX:4 XX:508
    EX:4 XX:254 EX:2 XX:736 EX:7 XX:109 EX:7 XX:2203 RI:26 XX:507 EX:5 XX:789504 CN:32 EX:96
    CN:128 EX:240 CN:3600 XX:192512"

end PipelineConfig.Text.Unicode
