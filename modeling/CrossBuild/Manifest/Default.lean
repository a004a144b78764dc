/-!
# The built-in manifest

The manifest used when none is given, as TOML text: the OpenAL Soft library for the PS4 with
the OpenOrbis toolchain, 90 translation units, the four public headers scanned for the stub.
-/

namespace CrossBuild

/-- The text of the built-in manifest. -/
def defaultManifestText : String :=
  "# Build manifest for OpenAL Soft on the PS4 (OpenOrbis toolchain).\n" ++
  "\n" ++
  "schema = \"v1\"\n" ++
  "\n" ++
  "# Final artifact name, must start with \"lib\".\n" ++
  "name = \"libOpenALSoftOO\"\n" ++
  "build_dir = \"build/ps4\"\n" ++
  "\n" ++
  "# Compiled in this order; order only affects log readability.\n" ++
  "sources = [\n" ++
  "  \"common/alcomplex.cpp\",\n" ++
  "  \"common/alfstream.cpp\",\n" ++
  "  \"common/almalloc.cpp\",\n" ++
  "  \"common/alstring.cpp\",\n" ++
  "  \"common/dynload.cpp\",\n" ++
  "  \"common/polyphase_resampler.cpp\",\n" ++
  "  \"common/ringbuffer.cpp\",\n" ++
  "  \"common/strutils.cpp\",\n" ++
  "  \"common/threads.cpp\",\n" ++
  "  \"core/ambdec.cpp\",\n" ++
  "  \"core/ambidefs.cpp\",\n" ++
  "  \"core/bformatdec.cpp\",\n" ++
  "  \"core/bs2b.cpp\",\n" ++
  "  \"core/bsinc_tables.cpp\",\n" ++
  "  \"core/buffer_storage.cpp\",\n" ++
  "  \"core/context.cpp\",\n" ++
  "  \"core/converter.cpp\",\n" ++
  "  \"core/cpu_caps.cpp\",\n" ++
  "  \"core/devformat.cpp\",\n" ++
  "  \"core/device.cpp\",\n" ++
  "  \"core/effectslot.cpp\",\n" ++
  "  \"core/except.cpp\",\n" ++
  "  \"core/filters/biquad.cpp\",\n" ++
  "  \"core/filters/nfc.cpp\",\n" ++
  "  \"core/filters/splitter.cpp\",\n" ++
  "  \"core/fmt_traits.cpp\",\n" ++
  "  \"core/fpu_ctrl.cpp\",\n" ++
  "  \"core/helpers.cpp\",\n" ++
  "  \"core/hrtf.cpp\",\n" ++
  "  \"core/logging.cpp\",\n" ++
  "  \"core/mastering.cpp\",\n" ++
  "  \"core/mixer.cpp\",\n" ++
  "  \"core/uhjfilter.cpp\",\n" ++
  "  \"core/uiddefs.cpp\",\n" ++
  "  \"core/voice.cpp\",\n" ++
  "  \"core/mixer/mixer_c.cpp\",\n" ++
  "  \"al/auxeffectslot.cpp\",\n" ++
  "  \"al/buffer.cpp\",\n" ++
  "  \"al/effect.cpp\",\n" ++
  "  \"al/effects/autowah.cpp\",\n" ++
  "  \"al/effects/chorus.cpp\",\n" ++
  "  \"al/effects/compressor.cpp\",\n" ++
  "  \"al/effects/convolution.cpp\",\n" ++
  "  \"al/effects/dedicated.cpp\",\n" ++
  "  \"al/effects/distortion.cpp\",\n" ++
  "  \"al/effects/echo.cpp\",\n" ++
  "  \"al/effects/effects.cpp\",\n" ++
  "  \"al/effects/equalizer.cpp\",\n" ++
  "  \"al/effects/fshifter.cpp\",\n" ++
  "  \"al/effects/modulator.cpp\",\n" ++
  "  \"al/effects/null.cpp\",\n" ++
  "  \"al/effects/pshifter.cpp\",\n" ++
  "  \"al/effects/reverb.cpp\",\n" ++
  "  \"al/effects/vmorpher.cpp\",\n" ++
  "  \"al/error.cpp\",\n" ++
  "  \"al/event.cpp\",\n" ++
  "  \"al/extension.cpp\",\n" ++
  "  \"al/filter.cpp\",\n" ++
  "  \"al/listener.cpp\",\n" ++
  "  \"al/source.cpp\",\n" ++
  "  \"al/state.cpp\",\n" ++
  "  \"alc/alc.cpp\",\n" ++
  "  \"alc/alu.cpp\",\n" ++
  "  \"alc/alconfig.cpp\",\n" ++
  "  \"alc/context.cpp\",\n" ++
  "  \"alc/device.cpp\",\n" ++
  "  \"alc/effects/autowah.cpp\",\n" ++
  "  \"alc/effects/chorus.cpp\",\n" ++
  "  \"alc/effects/compressor.cpp\",\n" ++
  "  \"alc/effects/convolution.cpp\",\n" ++
  "  \"alc/effects/dedicated.cpp\",\n" ++
  "  \"alc/effects/distortion.cpp\",\n" ++
  "  \"alc/effects/echo.cpp\",\n" ++
  "  \"alc/effects/equalizer.cpp\",\n" ++
  "  \"alc/effects/fshifter.cpp\",\n" ++
  "  \"alc/effects/modulator.cpp\",\n" ++
  "  \"alc/effects/null.cpp\",\n" ++
  "  \"alc/effects/pshifter.cpp\",\n" ++
  "  \"alc/effects/reverb.cpp\",\n" ++
  "  \"alc/effects/vmorpher.cpp\",\n" ++
  "  \"alc/panning.cpp\",\n" ++
  "  \"core/mixer/mixer_sse.cpp\",\n" ++
  "  \"core/mixer/mixer_sse2.cpp\",\n" ++
  "  \"core/mixer/mixer_sse3.cpp\",\n" ++
  "  \"core/mixer/mixer_sse41.cpp\",\n" ++
  "  \"alc/backends/base.cpp\",\n" ++
  "  \"alc/backends/loopback.cpp\",\n" ++
  "  \"alc/backends/null.cpp\",\n" ++
  "  \"alc/backends/wave.cpp\",\n" ++
  "  \"alc/backends/sceaudioout.cpp\",\n" ++
  "]\n" ++
  "\n" ++
  "[target]\n" ++
  "triple = \"x86_64-pc-freebsd12-elf\"\n" ++
  "flags = [\"-funwind-tables\", \"-fuse-init-array\"]\n" ++
  "warnings = [\n" ++
  "  \"-Winline\", \"-Wunused\", \"-Wall\", \"-Wextra\", \"-Wshadow\", \"-Wconversion\", \"-Wcast-align\",\n" ++
  "  \"-Wold-style-cast\", \"-Wnon-virtual-dtor\", \"-Woverloaded-virtual\", \"-Wpedantic\", \"-Werror\",\n" ++
  "]\n" ++
  "features = [\"-fPIC\", \"-fexceptions\", \"-fcxx-exceptions\", \"-fvisibility=hidden\", \"-std=c++14\"]\n" ++
  "includes = [\".\", \"common\", \"include\", \"hrtf\", \"alc\"]\n" ++
  "defines = [\n" ++
  "  \"ORBIS=1\", \"__ORBIS__=1\", \"PS4=1\", \"OO=1\", \"__PS4__=1\", \"OOPS4=1\", \"RESTRICT=__restrict\",\n" ++
  "  \"__BSD_VISIBLE=1\", \"_BSD_SOURCE=1\", \"_DEBUG=1\", \"AL_ALEXT_PROTOTYPES=1\",\n" ++
  "]\n" ++
  "# libunwind is merged into libc++ in nightly OpenOrbis builds.\n" ++
  "libs = [\"c\", \"c++\", \"kernel\", \"SceAudioOut\", \"SceAudioIn\", \"SceUserService\", \"SceSysmodule\"]\n" ++
  "paid = \"0x3800000000000011\"\n" ++
  "\n" ++
  "[stub]\n" ++
  "triple = \"x86_64-pc-linux-gnu\"\n" ++
  "source = \"alsoft_c_stub_source.c\"\n" ++
  "headers = [\n" ++
  "  \"include/AL/al.h\",\n" ++
  "  \"include/AL/alc.h\",\n" ++
  "  \"include/AL/alext.h\",\n" ++
  "  \"include/AL/efx.h\",\n" ++
  "]\n"

end CrossBuild
